import DriverBench.Proofs.Command.Setting
import DriverBench.Proofs.Session.Reached
/-!
# What a launch finds

`run` sets the arguments that stand on its line and launches the kernel with all the arguments that
it has. Those on the line are kept until the line is done, so that what they name is there.
Arguments that an earlier line set are ids and no more: the driver has forgotten the memory unless
something in the session still refers to it.
-/

namespace DriverBench

open Device Simulator

namespace Statement

/-- When a launch is ready its kernel has the arguments that stand on the line. -/
theorem ensures_prepareLaunch_fits :
    Reading.Ensures (fun _ => True) prepareLaunch
      (fun plan s => ∃ d₀ arguments, Fits d₀ plan.kernel 0 plan.rest.values arguments ∧
        s.driver? = some (d₀.setArguments plan.kernel.id 0 arguments)) (fun _ => True) := by
  unfold prepareLaunch
  refine Reading.Ensures.any.bind fun k => Reading.Ensures.any.bind fun _ => ?_
  refine Reading.Ensures.any.bind fun globalSize => Reading.Ensures.any.bind fun rest => ?_
  refine Reading.Ensures.any.bind fun _ => ?_
  have hdriver : Action.Ensures (fun _ => True) Action.activeDriver
      (fun d s => s.driver? = some d) (fun _ => True) := by
    intro s _
    rw [Action.run_activeDriver]
    cases hd : s.driver? with
    | none => trivial
    | some d => exact hd
  refine (Reading.Ensures.liftM hdriver).bind fun d => ?_
  have hset : Action.Ensures (fun s => s.driver? = some d) (setArguments k.2 0 rest.values)
      (fun _ s => ∃ arguments, Fits d k.2 0 rest.values arguments ∧
        s.driver? = some (d.setArguments k.2.id 0 arguments)) (fun _ => True) := by
    intro s hd
    obtain ⟨n, hn, hget⟩ := Session.exists_of_driver? hd
    have h := ensures_setArguments k.2 0 rest.values hn hget s rfl
    rcases hr : (setArguments k.2 0 rest.values).run.run s with ⟨f | u, s'⟩
    · trivial
    · rw [hr] at h
      obtain ⟨arguments, hfits, rfl⟩ := h
      exact ⟨arguments, hfits, Session.driver?_withDriver hn hget _⟩
  refine (Reading.Ensures.liftM hset).bind fun _ => Reading.Ensures.pure ?_
  rintro s ⟨arguments, hfits, hd⟩
  exact ⟨d, arguments, hfits, hd⟩

end Statement

namespace Session

open Statement

/-- **A launch on the memory that is there.** Of the memory that a launch is given, the driver has
just that at this moment which something in the session still refers to: a binding, an operation
under way or the line itself. The arguments that stand on the line come first, in their order, and
what is memory among them is there. -/
theorem Reached.memory_of_launch {s : Session} (hs : s.Reached) {c c' : Cursor} {plan : LaunchPlan}
    {s₁ : Session} {d d' : State} (hplan : prepareLaunch.run c s = ((.ok plan, c'), s₁))
    (hd : s₁.driver? = some d) (hcall : plan.call.run.run d = (.ok (), d')) :
    ∃ launch, d'.launches = d.launches ++ [launch] ∧
      (∀ id, .memory id ∈ launch.arguments → (d'.memories.contains id = true ↔
        ∃ h ∈ s₁.handles, h.id = id ∧ (h.kind = .buffer ∨ h.kind = .image))) ∧
      ∀ (i : Nat) (t : Token) (e : Entity), plan.rest.values[i]? = some (t, e) →
        ∃ a, argument? e.object = some a ∧ launch.arguments[i]? = some a ∧
          ∀ id, a = .memory id → d'.memories.contains id = true := by
  have hlaunch := tries_enqueueKernel plan.kernel plan.globalSize plan.rest.localSize d d rfl
  have hholds := ensures_prepareLaunch c s hs.idle.balanced
  have hfits := ensures_prepareLaunch_fits c s trivial
  change (enqueueKernel plan.kernel plan.globalSize plan.rest.localSize).run.run d = _ at hcall
  rw [hcall] at hlaunch
  rw [hplan] at hholds hfits
  obtain ⟨k, given, hk, hgiven, rfl⟩ := hlaunch
  obtain ⟨d₀, arguments, hfits, hd₀⟩ := hfits
  obtain rfl := Option.some.inj (hd.symm.trans hd₀)
  refine ⟨_, rfl, fun id _ => hholds.balanced.contains_memory_iff hd id, fun i t e hi => ?_⟩
  -- The slot of the number still has what the line put there, and the launch is given it.
  obtain ⟨a, ha, hai⟩ := exists_of_mapM hfits.values hi
  have hlt : i < arguments.length := (List.getElem?_eq_some_iff.1 hai).1
  have hslot : k.slots[i]? = some (some a) := by
    rcases hfits.slots with rfl | ⟨k₀, hk₀, hle⟩
    · cases hai
    · rw [State.get?_setArguments, hk₀, Option.map_some] at hk
      obtain rfl := Option.some.inj hk
      rw [Kernel.getElem?_slots_setFrom _ _ _ hle, if_pos (by omega), Nat.sub_zero, hai,
        Option.map_some]
  obtain ⟨a', ha', hgi⟩ := exists_of_mapM hgiven hslot
  obtain rfl := Option.some.inj ha'
  refine ⟨a, ha, hgi, ?_⟩
  rintro id rfl
  exact hfits.live id (List.mem_of_getElem? hai)

/-- A kernel with an argument that has been set to a buffer without a name. -/
def afterBind : Session :=
  after ["p = program(\"kernel void k(global int* a) \x7b \x7d\")", "k = kernel(p, k)",
    "bind k 0 buffer(16)"]

/-- A buffer that is bound to a kernel and has no name is forgotten at the end of its line, and a
later launch is given its id all the same. -/
theorem launch_of_forgotten_buffer :
    ∃ plan c' s₁ d d', prepareLaunch.run (Cursor.ofLine "run k((1))").advance afterBind =
        ((.ok plan, c'), s₁) ∧
      s₁.driver? = some d ∧ plan.call.run.run d = (.ok (), d') ∧
      d'.launches.map (·.arguments) = [[.memory 3]] ∧ d'.memories.contains 3 = false := by
  have hs : afterBind.Reached := reached_after _
  have hrun : (match prepareLaunch.run (Cursor.ofLine "run k((1))").advance afterBind with
      | ((.ok plan, _), s₁) => s₁.driver?.map fun d =>
        ((plan.call.run.run d).1.toBool, (plan.call.run.run d).2.launches.map (·.arguments),
          s₁.handles.map (·.kind))
      | _ => none) =
      some (true, [[.memory 3]], [.program, .kernel, .kernel]) := by decide +kernel
  rcases hplan : prepareLaunch.run (Cursor.ofLine "run k((1))").advance afterBind with
    ⟨⟨f | plan, c'⟩, s₁⟩
  · rw [hplan] at hrun
    cases hrun
  rw [hplan] at hrun
  obtain ⟨d, hd, heq⟩ := Option.map_eq_some_iff.1 hrun
  rcases hcall : plan.call.run.run d with ⟨e | u, d'⟩
  · rw [hcall] at heq
    cases heq
  rw [hcall] at heq
  obtain ⟨-, heq⟩ := Prod.mk.inj heq
  obtain ⟨harguments, hkinds⟩ := Prod.mk.inj heq
  obtain ⟨launch, hlaunches, hmemory, -⟩ := hs.memory_of_launch hplan hd hcall
  have hgiven : launch.arguments = [.memory 3] := by
    rw [hlaunches, List.map_append, List.map_cons, List.map_nil] at harguments
    exact (List.append_eq_singleton_iff.1 harguments).elim (fun h => List.singleton_inj.1 h.2)
      fun h => by cases h.2
  refine ⟨plan, c', s₁, d, d', rfl, hd, hcall, harguments, ?_⟩
  rw [Bool.eq_false_iff, Ne, hmemory 3 (by rw [hgiven]; simp)]
  rintro ⟨h, hh, -, hkind⟩
  -- Nothing that the session refers to is memory.
  have hin : h.kind ∈ s₁.handles.map (·.kind) := List.mem_map_of_mem hh
  rw [hkinds] at hin
  rcases hkind with hkind | hkind <;> · rw [hkind] at hin; simp at hin

end Session

end DriverBench
