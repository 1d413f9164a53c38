import DriverBench.Proofs.Simulator.Machine
/-!
# A request that fails has no effect

Most calls look first and change something last, so there is nothing to undo when they fail. One
call does write on its way to a failure: a build that finds lines which ask for a failure notes that
the program is not built. In a driver that requests lead to the note says nothing new, because no
program with such lines was ever built.
-/

namespace DriverBench.Simulator

open Device

/-- If a call fails on a driver, the driver stays as it is. -/
def Call.Spares {α : Type} (c : Call α) (d : State) : Prop :=
  ∀ e d', c.run.run d = (.error e, d') → d' = d

section Spares

variable {α : Type} {Q : State → α → State → Prop} {c : Call α}

theorem Tries.spares (hc : Tries c Q) (d : State) : c.Spares d := by
  intro e d' hr
  have h := hc d d rfl
  rwa [hr] at h

/-- A call that only looks leaves the driver as it is, whether or not it fails. -/
theorem spares_of_looking (hc : Action.Within (fun d d' => d' = d) c) (d : State) :
    c.Spares d := by
  intro e d' hr
  have h := hc d
  rwa [hr] at h

theorem spares_ignore {d : State} (h : c.Spares d) : (do let _ ← c : Call Unit).Spares d := by
  intro e d' hr
  rw [Action.run_bind] at hr
  rcases hc : c.run.run d with ⟨e' | a, d''⟩
  · rw [hc] at hr
    obtain ⟨-, rfl⟩ := Prod.mk.inj hr
    exact h e' d'' hc
  · rw [hc] at hr
    cases (Prod.mk.inj hr).1

end Spares

/-- **A build that fails** finds its program as not built as it leaves it. -/
theorem spares_buildProgram {d : State} (hd : d.Sound) (program : Handle) (options : String) :
    (buildProgram program options).Spares d := by
  intro e d' hr
  cases hp : d.programs.get? program.id with
  | none =>
    rw [run_buildProgram_of_none hp] at hr
    exact (Prod.mk.inj hr).2.symm
  | some p =>
    rw [run_buildProgram hp] at hr
    by_cases herrors : errorLines p.source = []
    · rw [if_pos herrors] at hr
      cases (Prod.mk.inj hr).1
    · rw [if_neg herrors] at hr
      have hsame : (d.programs.modify program.id fun p => { p with built := false }) =
          d.programs := by
        refine Table.modify_eq_self hd.programs_distinct fun q hq => ?_
        obtain rfl : p = q := Option.some.inj (hp.symm.trans hq)
        have hbuilt : p.built = false := by
          rw [Bool.eq_false_iff]
          exact fun hbuilt => herrors ((hd.program _ _ hp).noErrors hbuilt)
        rw [← hbuilt]
      rw [hsame] at hr
      exact (Prod.mk.inj hr).2.symm

/-- **Whatever a driver is asked**, it stays as it is if the request fails. -/
theorem Request.spares {d : State} (hd : d.Sound) (r : Request) : r.perform.Spares d := by
  cases r with
  | selectPlatform index => exact (tries_selectPlatform index).spares d
  | selectDevice index => exact (tries_selectDevice index).spares d
  | setBlocking blocking => rintro e d' ⟨⟩
  | createBuffer size => exact spares_ignore ((tries_createBuffer size).spares d)
  | writeBuffer m offset data => exact (tries_writeBuffer m offset data).spares d
  | readBuffer m offset length =>
    exact spares_ignore (spares_of_looking (within_readBuffer m offset length) d)
  | copyBuffer src dst srcOffset dstOffset length =>
    exact (tries_copyBuffer src dst srcOffset dstOffset length).spares d
  | createImage format desc data =>
    exact spares_ignore ((tries_createImage format desc data).spares d)
  | writeImage m origin region data => exact (tries_writeImage m origin region data).spares d
  | readImage m origin region out =>
    exact spares_ignore (spares_of_looking (within_readImage m origin region out) d)
  | copyImage src dst srcOrigin dstOrigin region =>
    exact (tries_copyImage src dst srcOrigin dstOrigin region).spares d
  | createProgram source => exact spares_ignore ((tries_createProgram source).spares d)
  | createProgramBinary binary =>
    exact spares_ignore ((tries_createProgramBinary binary).spares d)
  | buildProgram program options => exact spares_buildProgram hd program options
  | programBinary program => exact spares_ignore ((looks_programBinary program).spares d)
  | createKernel program name => exact spares_ignore ((tries_createKernel program name).spares d)
  | cloneKernel kernel => exact spares_ignore ((tries_cloneKernel kernel).spares d)
  | setArgument kernel index value => exact (tries_setArgument kernel index value).spares d
  | enqueueKernel kernel globalSize localSize =>
    exact (tries_enqueueKernel kernel globalSize localSize).spares d
  | flush => exact tries_flush.spares d
  | finish => exact tries_finish.spares d
  | release h => rintro e d' ⟨⟩

/-- Where the machine is refused, it leaves the driver as the call does, and the output buffer as it
was. -/
theorem Machine.Performs.eq_of_fail {α : Type} {op : Machine Unit} {c : Call α}
    {filled : α → List UInt8} {d : State} {out : List UInt8}
    (h : Machine.Performs op c filled d out) (hc : c.Spares d) {halt : Machine.Halt}
    {w : Machine.Desk} (hr : op.run.run ⟨d, out⟩ = (.error halt, w)) : w = ⟨d, out⟩ := by
  unfold Machine.Performs at h
  rw [hr] at h
  rcases hrun : c.run.run d with ⟨e | a, d'⟩
  · rw [hrun] at h
    obtain rfl : d' = d := hc e d' hrun
    exact (Prod.mk.inj h).2
  · rw [hrun] at h
    cases (Prod.mk.inj h).1

/-- **A request that fails has no effect.** In every driver that requests lead to, each request that
fails leaves the whole driver as it was: memories, programs, kernels with their arguments, launches,
counters, the ids that were given out and the settings. A reading that fails leaves the output
buffer as it was besides. -/
theorem State.Reached.unchanged_of_fail {d : State} (hd : d.Reached) :
    (∀ (r : Request) e d', r.perform.run.run d = (.error e, d') → d' = d) ∧
    (∀ m offset out halt w, (Machine.readBuffer m offset).run.run ⟨d, out⟩ = (.error halt, w) →
      w = ⟨d, out⟩) ∧
    ∀ m origin region out halt w,
      (Machine.readImage m origin region).run.run ⟨d, out⟩ = (.error halt, w) → w = ⟨d, out⟩ :=
  ⟨fun r => r.spares hd.sound,
    fun m offset out _ _ hr => (Machine.performs_readBuffer hd.sound m offset).eq_of_fail
      (spares_of_looking (within_readBuffer m offset out.length) d) hr,
    fun m origin region out _ _ hr =>
      (Machine.performs_readImage hd.sound m origin region).eq_of_fail
        (spares_of_looking (within_readImage m origin region out) d) hr⟩

/-- A driver with a program that asks for its build to fail. -/
def State.withFailing : State :=
  State.after {} (.createProgram "kernel void k(int n)\n#error no")

/-- The build fails with the line that asks for it, and the program is as it was. -/
theorem State.unchanged_of_failing_build :
    State.withFailing.Reached ∧
      (buildProgram ⟨1, .program, some 0⟩ "-O2").run.run State.withFailing =
        (.error (.buildFailure "#error no"), State.withFailing) := by
  have hd : State.withFailing.Reached := (State.Reached.start 0).after _
  have herrors : errorLines "kernel void k(int n)\n#error no" = ["#error no".toList] := by
    decide +kernel
  have hlog : buildLog ["#error no".toList] = "#error no" := by decide +kernel
  have hprogram : State.withFailing.programs.get? (Handle.mk 1 .program (some 0)).id =
      some ⟨"kernel void k(int n)\n#error no", false, []⟩ := rfl
  have hfails := run_buildProgram hprogram "-O2"
  rw [if_neg (by simp [herrors]), herrors, hlog] at hfails
  obtain ⟨hsame, -⟩ := hd.unchanged_of_fail
  rw [hsame (.buildProgram ⟨1, .program, some 0⟩ "-O2") _ _ hfails] at hfails
  exact ⟨hd, hfails⟩

end DriverBench.Simulator
