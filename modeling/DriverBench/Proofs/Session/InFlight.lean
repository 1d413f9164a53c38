import DriverBench.Proofs.Command.InFlight
import DriverBench.Proofs.Script.Trace
/-!
# Operands of a driver that does not wait

A driver that does not wait for its operations may use their operands later. So the session keeps
what a line gives to it (`Executed.Uses`): the source of every buffer that was filled, be it in the
middle of an expression that fails further on, and the arguments of every launch. One line after the
other leaves them in flight, whatever it binds, releases, launches or sets, unless it waits; a
change of driver or of selection ends what the device holds (`Reached.stays_in_flight`).

What the driver does is what the option `block` says, as long as options are set and drivers are
loaded by lines (`Session.Attuned`).
-/

namespace DriverBench

open Device Simulator
open Statement (command?)

namespace Executed

/-- The session in which a line is executed: the journal has it already. -/
def started (r : Executed) : Session :=
  r.before.note (.ran r.before.depth r.line)

/-- **What a line gives to the driver**: the sources of the buffers that are filled on the way,
whatever becomes of the line, and the arguments of a launch that goes through. -/
inductive Uses (r : Executed) : Entity → Prop
  | source {c : Cursor} {s : Session} {e : Entity} :
      Statement.Evaluates (Cursor.ofLine r.line) r.started c s → Reading.Fills c.pending c s e →
      Uses r e
  | argument {plan : LaunchPlan} {c : Cursor} {s : Session} {e : Entity} :
      command? (Cursor.ofLine r.line) = some .run → r.outcome = .good →
      Reading.Gives Statement.prepareLaunch (Cursor.ofLine r.line).advance r.started plan c s →
      e ∈ plan.rest.values.map Prod.snd → Uses r e

/-- The line waited until everything was done. -/
def Waited (r : Executed) : Prop :=
  command? (Cursor.ofLine r.line) = some .wait ∧ r.outcome = .good

/-- The line had changed the driver or the selection, and failed just because that could not be
noted. -/
def NoteLost (r : Executed) : Prop :=
  ∃ s f s', Statement.Switches (Cursor.ofLine r.line) r.started s ∧
    Session.executeWith runScript r.line r.started = (.error f, s') ∧ s.NoteLost f

/-- The line was a `load` or a `select` that went through, but for a note on the change that was
lost perhaps. -/
def Switched (r : Executed) : Prop :=
  (command? (Cursor.ofLine r.line) = some .load ∨ command? (Cursor.ofLine r.line) = some .select) ∧
    (r.outcome = .good ∨ r.NoteLost)

end Executed

namespace Session

open Reading (Within)

variable {p : Entity → Prop}

/-- The driver in use, if there is one, waits for its operations if and only if the option says so.
-/
def Attuned (s : Session) : Prop :=
  ∀ d, s.driver? = some d → d.blocking = s.options.block

/-! ## One line -/

theorem inFlight_dropTemporaries (s : Session) : s.dropTemporaries.inFlight = s.inFlight := by
  obtain ⟨fleet, heq, -⟩ := letGo_eq { s with temporaries := [] } s.temporaries
  rw [dropTemporaries, heq]

theorem inFlight_runLine (s : Session) (line : String) :
    (s.runLine line).2.inFlight = ((Statement.execute runScript).run (Cursor.ofLine line)
      (s.note (.ran s.depth line))).2.inFlight := by
  unfold runLine runLineWith executeWith
  dsimp only
  rcases (Statement.execute runScript).run (Cursor.ofLine line) (s.note (.ran s.depth line)) with
    ⟨⟨f | o, c⟩, t⟩
  · exact inFlight_dropTemporaries t
  · exact inFlight_dropTemporaries t

theorem outcome_of_ok {r : Executed} {c : Cursor} {s : Session} {o : Outcome}
    (h : (Statement.execute runScript).run (Cursor.ofLine r.line) r.started = ((.ok o, c), s)) :
    r.outcome = o := by
  unfold Executed.outcome runLine runLineWith executeWith
  unfold Executed.started at h
  dsimp only
  rw [h]

/-- What fails to change the driver or the selection retains what is in flight. -/
theorem retains_of_fails {r : Executed} {command : Command}
    (hcommand : command? (Cursor.ofLine r.line) = some command)
    (h : command = .load ∨ command = .select) (hswitch : ¬ r.Switched) :
    r.started.Retains p
      ((Statement.execute runScript).run (Cursor.ofLine r.line) r.started).2 := by
  have hnamed : command? (Cursor.ofLine r.line) = some .load ∨
      command? (Cursor.ofLine r.line) = some .select := by
    rcases h with rfl | rfl
    · exact .inl hcommand
    · exact .inr hcommand
  have hanswers : Reading.Answers .good (Statement.perform runScript command) := by
    rcases h with rfl | rfl
    · exact Statement.answers_load
    · exact Statement.answers_select
  have hgood := hanswers (Cursor.ofLine r.line).advance r.started trivial
  rcases hrun : (Statement.execute runScript).run (Cursor.ofLine r.line) r.started with
    ⟨⟨f | o, c⟩, s⟩
  · obtain hcalm | ⟨s₁, hswitches, hlost⟩ := Statement.calm_or_switched runScript hcommand h hrun
    · exact fun e he _ => hcalm.inFlight ▸ he
    · refine absurd ⟨hnamed, .inr ⟨s₁, f, s.dropTemporaries, hswitches, ?_, hlost⟩⟩ hswitch
      unfold executeWith
      rw [hrun]
  · have hperform := hrun
    rw [Statement.run_execute_of_command runScript hcommand] at hperform
    rw [hperform] at hgood
    exact absurd ⟨hnamed, .inl ((outcome_of_ok hrun).trans hgood)⟩ hswitch

/-- What fails to wait retains what is in flight. -/
theorem retains_of_wait {r : Executed} (hcommand : command? (Cursor.ofLine r.line) = some .wait)
    (hwait : ¬ r.Waited) :
    r.started.Retains p
      ((Statement.execute runScript).run (Cursor.ofLine r.line) r.started).2 := by
  have hcalm := Statement.ensures_wait_calm r.started (Cursor.ofLine r.line).advance r.started
    (Frame.refl r.started)
  have hgood := Statement.answers_perform runScript (c := .wait) (by decide)
    (Cursor.ofLine r.line).advance r.started trivial
  have hperform := Statement.run_execute_of_command runScript hcommand r.started
  rcases hrun : (Statement.execute runScript).run (Cursor.ofLine r.line) r.started with
    ⟨⟨f | o, c⟩, s⟩
  · rw [hrun] at hperform
    have hwaits : Statement.wait.run (Cursor.ofLine r.line).advance r.started =
      ((.error f, c), s) := hperform.symm
    rw [hwaits] at hcalm
    exact fun e he _ => hcalm.inFlight ▸ he
  · rw [← hperform, hrun] at hgood
    exact absurd ⟨hcommand, (outcome_of_ok hrun).trans hgood⟩ hwait

/-- **A line leaves in flight what is**, unless it waits, or takes away what the device holds. -/
theorem retains_of_line {r : Executed} (hscript : command? (Cursor.ofLine r.line) ≠ some .script)
    (hwait : ¬ r.Waited) (hswitch : (∀ e, p e → e.object.isDriverOwned = false) ∨ ¬ r.Switched) :
    r.before.Retains p r.after := by
  have hexecute : r.started.Retains p
      ((Statement.execute runScript).run (Cursor.ofLine r.line) r.started).2 := by
    rcases Statement.execute_cases runScript (Cursor.ofLine r.line) with
      h | ⟨f, c, h⟩ | h | ⟨command, hcommand, h⟩
    · rw [h]
      exact Frame.refl r.started
    · rw [h]
      exact Frame.refl r.started
    · rw [h]
      exact Statement.within_retains_assignment _ _
    · by_cases hw : command = .wait
      · exact retains_of_wait (hw ▸ hcommand) hwait
      have hne : command ≠ .script := fun heq => hscript (heq ▸ hcommand)
      rcases hswitch with hhost | hswitch
      · rw [h]
        exact Statement.within_retains_perform runScript hne hw (.inl hhost) _ _
      by_cases hs : command = .load ∨ command = .select
      · exact retains_of_fails hcommand hs hswitch
      · rw [h]
        exact Statement.within_retains_perform runScript hne hw (.inr (not_or.1 hs)) _ _
  intro e he hp
  rw [Executed.after, inFlight_runLine]
  exact hexecute e he hp

/-- **What a line uses is in flight behind it**, where the driver does not wait. -/
theorem mem_inFlight_of_uses {r : Executed} {e : Entity} (h : r.Uses e)
    (hr : r.before.blocking? = some false) : e ∈ r.after.inFlight := by
  rw [Executed.after, inFlight_runLine]
  cases h with
  | source hevaluates hfills =>
    refine hevaluates.mem_inFlight runScript ?_
    exact hfills.mem_inFlight (hevaluates.spares.blocking?_eq.trans hr)
  | argument hcommand hgood hplan he =>
    have hline : r.before.runLine r.line = (.good, (r.before.runLine r.line).2) :=
      Prod.ext hgood rfl
    obtain ⟨c, t, hrun, -⟩ := exists_run_of_runLine hline
    rw [hrun]
    exact Statement.mem_inFlight_of_launched (s := r.started) hr hcommand hplan hrun he

/-! ## The option and the driver -/

/-- What is done keeps the driver doing what the option says. -/
def KeepsAttuned (s s' : Session) : Prop :=
  s.Attuned → s'.Attuned

instance : TalkFrame KeepsAttuned where
  refl _ h := h
  trans h h' hs := h' (h hs)
  of_talks := by
    rintro s _ ⟨out, err, rfl⟩ h
    exact h

/-- Where neither the option nor the flag changes, they go on agreeing. -/
theorem SameBlocking.keepsAttuned {s s' : Session} (h : s.SameBlocking s') : s.KeepsAttuned s' := by
  intro hs d hd
  have hsame : s'.blocking? = some d.blocking := congrArg (Option.map State.blocking) hd
  obtain ⟨d₀, hd₀, hb⟩ := Option.map_eq_some_iff.1 (h.flag.symm.trans hsame)
  rw [h.options, ← hb]
  exact hs d₀ hd₀

theorem keepsAttuned_letGo (s : Session) (es : List Entity) : s.KeepsAttuned (s.letGo es) :=
  (builds_letGo s es).toSpares.sameBlocking.keepsAttuned

theorem within_attuned_drive {α : Type} {call : Call α}
    (h : Action.Within State.SameBlocking call) : Action.Within KeepsAttuned (Action.drive call) :=
  (Action.within_blocking_drive h).mono fun _ _ hs => hs.keepsAttuned

/-- A new driver does what the option says. -/
theorem keepsAttuned_setDriver (s : Session) : s.KeepsAttuned s.setDriver.2 := by
  intro _ d hd
  have hget : s.setDriver.2.fleet.get? s.invalidate.2.fleet.drivers.length = some d := hd
  have hoptions : s.setDriver.2.options = s.invalidate.2.options := rfl
  rcases get?_setDriver hget with rfl | hold
  · exact hoptions ▸ rfl
  · -- There was no driver with the number of the new one.
    have hnone := List.getElem?_eq_none (Nat.le_refl s.invalidate.2.fleet.drivers.length)
    unfold Fleet.get? at hold
    rw [hnone] at hold
    cases hold

/-- The driver is told of `block`, and the other settings are none of its. -/
theorem keepsAttuned_configure (s : Session) (setting : Setting) (value : Bool) :
    s.KeepsAttuned (s.configure setting value) := by
  rcases s with ⟨env, inFlight, temporaries, fleet, _ | n, options, depth, out, err, files, codec,
    entities, journal⟩
  · intro _ d hd
    cases setting <;> cases hd
  · cases setting
    case block =>
      intro _ d hd
      change (fleet.modify n fun d => { d with blocking := value }).get? n = some d at hd
      rw [Fleet.get?_modify, if_pos rfl] at hd
      obtain ⟨d₀, -, rfl⟩ := Option.map_eq_some_iff.1 hd
      rfl
    all_goals exact fun hs d hd => hs d hd

theorem within_blocking_select (target : SelectionTarget) (index : Nat) :
    Action.Within State.SameBlocking (target.select index) := by
  have hset : ∀ f : State → State, (∀ d, (f d).blocking = d.blocking) →
      Action.Within State.SameBlocking (modify f : Call PUnit) := fun f hf d => hf d
  cases target with
  | platform =>
    exact Action.within_when (Action.within_throw _) (hset _ fun _ => rfl)
  | device =>
    exact Action.within_when (Action.within_throw _) (hset _ fun _ => rfl)

/-- Whatever a line does, the driver goes on doing what the option says. -/
theorem allows_attuned (command : Command) : Allows KeepsAttuned command := by
  cases command with
  | load => exact keepsAttuned_setDriver
  | select =>
    exact ⟨fun target index => within_attuned_drive (within_blocking_select target index),
      fun s => keepsAttuned_letGo s.hostOnly _⟩
  | set => exact keepsAttuned_configure
  | release =>
    intro s s' names count hu
    rw [eq_letGo_of_unbind hu]
    exact keepsAttuned_letGo { s with env := s.env.keep fun b => !names.contains b.1 } _
  | save => exact fun _ _ h => h
  | run =>
    exact ⟨fun plan => within_attuned_drive (Statement.within_blocking_launch plan),
      within_attuned_drive fun _ => rfl, fun _ _ h => h⟩
  | wait =>
    exact ⟨within_attuned_drive fun _ => rfl,
      fun s => keepsAttuned_letGo { s with inFlight := [] } s.inFlight⟩
  | flush => exact within_attuned_drive fun _ => rfl
  | info | list | script | bind | help | quit => trivial

theorem keepsAttuned_dropTemporaries (s : Session) : s.KeepsAttuned s.dropTemporaries :=
  keepsAttuned_letGo { s with temporaries := [] } s.temporaries

theorem keepsAttuned_runLine (s : Session) {line : String}
    (hscript : command? (Cursor.ofLine line) ≠ some .script) :
    s.KeepsAttuned (s.runLine line).2 := by
  have hspares : ∀ s s' : Session, s.Spares s' → s.KeepsAttuned s' := fun _ _ h =>
    h.sameBlocking.keepsAttuned
  have hexecute : (s.note (.ran s.depth line)).KeepsAttuned
      ((Statement.execute runScript).run (Cursor.ofLine line) (s.note (.ran s.depth line))).2 := by
    rcases Statement.execute_cases runScript (Cursor.ofLine line) with
      h | ⟨f, c, h⟩ | h | ⟨command, hcommand, h⟩
    · rw [h]
      exact Frame.refl _
    · rw [h]
      exact Frame.refl _
    · rw [h]
      exact Statement.within_assignment (fun s s' h => hspares s s' h.toSpares)
        (fun _ _ _ _ _ h => h) _ _
    · rw [h]
      exact Statement.within_perform hspares runScript (fun heq => hscript (heq ▸ hcommand))
        (allows_attuned command) _ _
  intro hs
  unfold runLine runLineWith executeWith
  dsimp only
  rcases hrun : (Statement.execute runScript).run (Cursor.ofLine line) (s.note (.ran s.depth line))
    with ⟨⟨f | o, c⟩, t⟩
  all_goals
    rw [hrun] at hexecute
    exact keepsAttuned_dropTemporaries t (hexecute hs)

/-! ## Runs -/

/-- What is in flight between two lines is alive in the driver in use. -/
theorem Reached.exists_kept {s : Session} (hs : s.Reached) {e : Entity} (he : e ∈ s.inFlight)
    {h : Handle} (hh : e.object.handle? = some h) :
    ∃ d, s.driver? = some d ∧ (d.kept? h).isSome := by
  have hkept : (s.fleet.kept? h).isSome :=
    (hs.idle.balanced.live h).2 (.inl (mem_handles.2 ⟨e, mem_held.2 (.inr (.inl he)), hh⟩))
  obtain ⟨n, d, hn, hd, hl⟩ := Fleet.exists_of_isSome hkept
  refine ⟨d, ?_, hl⟩
  rw [driver?, ← hs.idle.balanced.issued h hkept, hn, Option.bind_some, hd]

/-- **Operands stay until somebody waits.** Every line, script and script file comes apart into the
lines that are run for it. In such a run, what a line uses that is run while the driver does not
wait stays among the objects that operations may still use, whatever the lines behind it do: until
one of them waits, or, if the device holds it, changes the driver or the selection. Until then it is
kept by the driver in use. And the driver waits as the option says from the start of the run to its
end. -/
theorem Reached.stays_in_flight {s : Session} (hs : s.Reached) :
    (∀ line, s.Traced (s.runLine line).2) ∧
    (∀ source, s.Traced ((DriverBench.runScript source).run.run s).2) ∧
    (∀ path, s.Traced (s.runScriptFile path).2) ∧
    ∀ rs s', s.Runs rs s' →
      (s.Attuned → s'.Attuned) ∧
      ∀ earlier r later e, rs = earlier ++ r :: later →
        r.before.blocking? = some false → r.Uses e → (∀ x ∈ later, ¬ x.Waited) →
        (e.object.isDriverOwned = true → ∀ x ∈ later, ¬ x.Switched) →
        e ∈ s'.inFlight ∧
          ∀ h, e.object.handle? = some h → ∃ d, s'.driver? = some d ∧ (d.kept? h).isSome := by
  refine ⟨s.traced_runLine, fun source => within_traced_runScript source s, s.traced_runScriptFile,
    fun rs s' hrun => ⟨?_, ?_⟩⟩
  · refine fun hattuned => hrun.keeps (P := Attuned) (fun r hr => ?_) (fun _ _ _ _ _ h => h)
      keepsAttuned_dropTemporaries hattuned
    exact keepsAttuned_runLine r.before (hrun.ne_script r hr)
  · rintro earlier r later e rfl hblocking huses hwait hswitch
    have hbehind := hrun.of_append
    have hstay : e ∈ s'.inFlight := by
      refine hbehind.keeps (P := fun s => e ∈ s.inFlight) (fun x hx he => ?_)
        (fun _ _ _ _ _ he => he) (fun s he => (inFlight_dropTemporaries s).symm ▸ he)
        (mem_inFlight_of_uses huses hblocking)
      refine retains_of_line (p := fun x => x = e) (hbehind.ne_script x hx) (hwait x hx) ?_ e he rfl
      -- An object of the host is none that a change of driver takes away.
      by_cases howned : e.object.isDriverOwned = true
      · exact .inr (hswitch howned x hx)
      · exact .inl fun x hx => hx ▸ Bool.eq_false_iff.2 howned
    exact ⟨hstay, fun h hh => (hrun.reached hs).1.exists_kept hstay hh⟩

/-- A session with a buffer and a kernel, and a driver that does not wait. -/
def launching : Session :=
  after ["set block false", "b = buffer(16)",
    "p = program(\"kernel void k(global int* a) \x7b \x7d\")", "k = kernel(p, k)"]

/-- The buffer of the session. -/
def launched : Entity :=
  ⟨0, .memory (.ofBuffer ⟨1, .buffer, some 0⟩ 16)⟩

/-- A line that launches the kernel uses the buffer. -/
theorem uses_launched {s : Session}
    (h : (match Statement.prepareLaunch.run (Cursor.ofLine "run k((1), b)").advance
        (Executed.started ⟨"run k((1), b)", s⟩) with
      | ((.ok plan, _), _) => plan.rest.values.map Prod.snd
      | _ => []) = [launched])
    (hgood : (s.runLine "run k((1), b)").1 = .good) :
    Executed.Uses ⟨"run k((1), b)", s⟩ launched := by
  rcases hplan : Statement.prepareLaunch.run (Cursor.ofLine "run k((1), b)").advance
    (Executed.started ⟨"run k((1), b)", s⟩) with ⟨⟨f | plan, c⟩, s'⟩
  · rw [hplan] at h
    cases h
  · rw [hplan] at h
    have hcommand : command? (Cursor.ofLine "run k((1), b)") = some .run := by decide +kernel
    refine .argument hcommand hgood hplan ?_
    rw [show plan.rest.values.map Prod.snd = _ from h]
    exact List.mem_singleton_self launched

/-- A buffer of which the name is released behind a launch, with the driver told to wait from then
on and a flush, is still in flight. -/
theorem stays_in_flight_of_release :
    launched ∈ (["run k((1), b)", "release b", "set block true", "flush"].foldl
        (fun s line => (s.runLine line).2) launching).inFlight ∧
      (["run k((1), b)", "release b", "set block true", "flush"].foldl
        (fun s line => (s.runLine line).2) launching).env.lookup "b" = none := by
  have hs : launching.Reached := reached_after _
  have hrun := @runs_executed launching ["run k((1), b)", "release b", "set block true", "flush"]
    (by decide +kernel)
  have huses : Executed.Uses ⟨"run k((1), b)", launching⟩ launched :=
    uses_launched (by decide +kernel) (by decide +kernel)
  obtain ⟨-, -, -, hstays⟩ := hs.stays_in_flight
  have hcommand : ∀ x ∈ (launching.runLine "run k((1), b)").2.executed
      ["release b", "set block true", "flush"],
      command? (Cursor.ofLine x.line) ∈ [some .release, some .set, some .flush] := by
    decide +kernel
  refine ⟨((hstays _ _ hrun).2 [] _ _ launched rfl (by decide +kernel) huses (fun x hx hw => ?_)
    fun _ x hx hsw => ?_).1, by decide +kernel⟩
  · have := hcommand x hx
    rw [hw.1] at this
    exact absurd this (by decide)
  · have := hcommand x hx
    rcases hsw.1 with h | h <;> · rw [h] at this; exact absurd this (by decide)

/-- The session with an output that takes nothing. -/
def launchingUnheard : Session :=
  { launching with out := { launching.out with broken := some "sink closed" } }

/-- A change of selection whose note is lost fails, and has taken the buffer of a launch away. -/
theorem not_in_flight_of_lost_note :
    ¬ ∀ (s s' : Session) (earlier : List Executed) (r : Executed) (later : List Executed)
      (e : Entity), s.Reached → s.Runs (earlier ++ r :: later) s' →
        r.before.blocking? = some false → r.Uses e → (∀ x ∈ later, ¬ x.Waited) →
        (e.object.isDriverOwned = true → ∀ x ∈ later,
          ¬ ((command? (Cursor.ofLine x.line) = some .load ∨
            command? (Cursor.ofLine x.line) = some .select) ∧ x.outcome = .good)) →
        e ∈ s'.inFlight := by
  intro h
  have hs : launchingUnheard.Reached := (reached_after _).around launching.options launching.depth
    { launching.out with broken := some "sink closed" } launching.err launching.files
    launching.codec launching.journal
  have hrun := @runs_executed launchingUnheard ["run k((1), b)", "select device 0"]
    (by decide +kernel)
  have huses : Executed.Uses ⟨"run k((1), b)", launchingUnheard⟩ launched :=
    uses_launched (by decide +kernel) (by decide +kernel)
  have hlater : ∀ x ∈ (launchingUnheard.runLine "run k((1), b)").2.executed ["select device 0"],
      x.outcome ≠ .good := by
    decide +kernel
  have hin := h launchingUnheard _ [] _ _ launched hs hrun (by decide +kernel) huses
    (fun x hx hw => hlater x hx hw.2) fun _ x hx hsw => hlater x hx hsw.2
  exact absurd hin (by decide +kernel)

end Session

end DriverBench
