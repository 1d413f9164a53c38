import DriverBench.Proofs.Command.Operands
import DriverBench.Proofs.Script.Trace
import DriverBench.Proofs.Session.Kernels
import DriverBench.Proofs.Session.Usable
/-!
# Handing objects to a kernel

What a line has read for a kernel is there: the driver in use has the kernel, and the memory among
the objects (`Ready`). So of a list of objects those are set that stand in front of the first one
that is neither memory nor data, or for which there is no slot.
-/

namespace DriverBench

open Device Number Simulator

namespace Session

/-- The driver in use has a kernel, and what is memory among the objects that are meant for it. -/
structure Ready (s : Session) (kernel : Handle) (values : List (Token × Entity)) : Prop where
  kernel : (s.kernel? kernel.id).isSome
  memory : ∀ v ∈ values, ∀ m, v.2.object = .memory m → m.handle.kind ≠ .kernel ∧
    ∀ d, s.driver? = some d → d.memories.contains m.handle.id = true

end Session

namespace Statement

open Reading
open Session (Usable Describes)

variable {c c' : Cursor} {s s' : Session}

/-! ## What was read is there -/

theorem describes_of_evaluateKept {e : Entity} (h : Gives evaluateKept c s e c' s')
    (hs : s.Usable) : s'.Describes e.object := by
  obtain ⟨e', c₁, s₁, he, hkept⟩ := h.exists_of_bind
  obtain ⟨_, c₂, s₂, hkeep, hgiven⟩ := hkept.exists_of_bind
  have hforms := forms_evaluate c s hs
  unfold Gives at he
  rw [he] at hforms
  cases hkeep
  cases hgiven
  exact hforms

theorem Objects.spares {mark : List Token → Prop} {values : List (Token × Entity)}
    (h : Objects mark c s values c' s') : s.Spares s' := by
  induction h with
  | nil => exact Frame.refl _
  | cons _ _ he _ ih => exact Frame.trans (he.within within_evaluateKept) ih

/-- What is said of the objects of a line is so when all of them have been read. -/
theorem Objects.describes {mark : List Token → Prop} {values : List (Token × Entity)}
    (h : Objects mark c s values c' s') (hs : s.Usable) :
    ∀ v ∈ values, s'.Describes v.2.object := by
  induction h with
  | nil => exact fun _ hv => absurd hv List.not_mem_nil
  | cons _ _ he hrest ih =>
    have hstep := he.within (within_evaluateKept (R := Session.Spares))
    refine List.forall_mem_cons.2 ⟨?_, ih (hstep.usable hs)⟩
    exact hrest.spares.sameDriver.describes (describes_of_evaluateKept he hs)

/-- What the line holds and says rightly of its objects is there for the driver. -/
theorem ready_of_describes {kernel : Handle} {name : String} {values : List (Token × Entity)}
    (hheld : Holds (kernel :: valueHandles values) s) (hkernel : s.Describes (.kernel kernel name))
    (hvalues : ∀ v ∈ values, s.Describes v.2.object) : s.Ready kernel values := by
  refine ⟨?_, fun v hv m hm => ?_⟩
  · obtain ⟨-, d, x, hd, -, hx, hfits⟩ :=
      hheld.balanced.fits hkernel rfl (.inl (hheld.mem_handles List.mem_cons_self))
    have hget := State.get?_of_kept? hx
    cases x with
    | memory e => exact hfits.elim
    | program p => exact hfits.elim
    | kernel k =>
      rw [Session.kernel?_of_driver? hd, hget]
      rfl
  · have hhandle : v.2.object.handle? = some m.handle := by rw [hm]; rfl
    have hmem : m.handle ∈ s.handles := hheld.mem_handles (List.mem_cons_of_mem _
      (List.mem_flatMap.2 ⟨v, hv, Entity.mem_handles.2 hhandle⟩))
    obtain ⟨-, d, x, hd, -, hx, hfits⟩ := hheld.balanced.fits (hvalues v hv) hhandle (.inl hmem)
    have hget := State.get?_of_kept? hx
    have hkind : x.kind = m.handle.kind := by simpa using (Option.filter_eq_some_iff.1 hx).2
    rw [hm] at hfits
    cases x with
    | memory e =>
      refine ⟨fun h => ?_, fun d' hd' => ?_⟩
      · rw [← hkind, Entry.kind] at h
        split at h <;> cases h
      · obtain rfl := Option.some.inj (hd.symm.trans hd')
        rw [Table.contains, hget]
        rfl
    | program p => exact hfits.elim
    | kernel k => exact hfits.elim

theorem BindLine.ready {plan : BindPlan} (h : BindLine c s plan s') (hs : s.Usable)
    (hheld : Holds (plan.kernel :: valueHandles plan.values) s') :
    s'.Ready plan.kernel plan.values := by
  cases h with
  | mk hkernel hobject _ _ _ hvalues _ _ _ =>
    have hread := hkernel.within (within_evaluateKept (R := Session.Spares))
    have hdescribes := hvalues.spares.sameDriver.describes (describes_of_evaluateKept hkernel hs)
    rw [hobject] at hdescribes
    exact ready_of_describes hheld hdescribes (hvalues.describes (hread.usable hs))

/-- Where objects were set there is a driver in use, and they fit. -/
theorem exists_fits_of_gives {kernel : Handle} {index : Nat} {values : List (Token × Entity)}
    (hne : values ≠ []) (h : (setArguments kernel index values).Gives s () s') :
    ∃ d arguments, s.driver? = some d ∧ Fits d kernel index values arguments := by
  cases hd : s.driver? with
  | none =>
    obtain ⟨⟨t, e⟩, rest, rfl⟩ := List.exists_cons_of_ne_nil hne
    unfold Action.Gives at h
    rw [setArguments] at h
    cases hv : argumentValue? e.object with
    | none =>
      rw [hv] at h
      cases h
    | some value =>
      simp only [hv, Action.run_bind, Action.run_atSpan, Action.run_drive_of_none hd] at h
      cases h
  | some d =>
    obtain ⟨n, hn, hget⟩ := Session.exists_of_driver? hd
    have hset := ensures_setArguments kernel index values hn hget s rfl
    unfold Action.Gives at h
    rw [h] at hset
    obtain ⟨arguments, hfits, -⟩ := hset
    exact ⟨d, arguments, rfl, hfits⟩

theorem BindLine.values_ne_nil {plan : BindPlan} (h : BindLine c s plan s') : plan.values ≠ [] := by
  cases h with
  | mk _ _ _ _ _ _ _ _ hne => exact hne

/-- The number of the slot that comes next is one that a kernel can have, or is the first one. -/
theorem BindLine.add_lt {plan : BindPlan} (h : BindLine c s plan s')
    (hslots : ∀ k, s'.kernel? plan.kernel.id = some k → k.slots.length < 2 ^ 32) {i : Nat}
    {t : Session} (hi : i < plan.values.length)
    (hset : (setArguments plan.kernel plan.first (plan.values.take i)).Gives s' () t) :
    plan.first + i < 2 ^ 32 := by
  have hfirst : plan.first < 2 ^ 32 := by
    cases h with
    | mk _ _ _ _ hread _ _ _ _ => exact Number.IntegerType.lt_of_readNatural rfl hread
  by_cases hzero : i = 0
  · subst hzero
    exact hfirst
  · have hlength : (plan.values.take i).length = i := List.length_take_of_le (Nat.le_of_lt hi)
    have hne : plan.values.take i ≠ [] := by
      rw [← List.length_pos_iff, hlength]
      omega
    -- The objects in front have found their slots, and there are not that many slots.
    obtain ⟨d, arguments, hd, hfits⟩ := exists_fits_of_gives hne hset
    have hcount : arguments.length = i := (length_of_mapM hfits.values).trans hlength
    rcases hfits.slots with rfl | ⟨k, hk, hle⟩
    · exact absurd hcount.symm hzero
    · have hlt := hslots k ((Session.kernel?_of_driver? hd _).trans hk)
      omega

theorem LaunchLine.ready {plan : LaunchPlan} (h : LaunchLine c s plan s') (hs : s.Usable)
    (hheld : Holds (plan.kernel :: valueHandles plan.rest.values) s') :
    s'.Ready plan.kernel plan.rest.values := by
  cases h with
  | mk hkernel hobject _ _ _ hvalues _ htalks =>
    have hread := hkernel.within (within_evaluateKept (R := Session.Spares))
    have hsame := (Session.TalkFrame.of_talks (R := Session.Spares) _ _ htalks).sameDriver
    have hdescribes := hvalues.spares.sameDriver.describes (describes_of_evaluateKept hkernel hs)
    rw [hobject] at hdescribes
    exact ready_of_describes hheld (hsame.describes hdescribes)
      fun v hv => hsame.describes (hvalues.describes (hread.usable hs) v hv)

/-! ## How far setting gets -/

/-- **Objects were set** for a kernel, from a slot on: it was one kernel before and is another one
then. -/
inductive Sets (s : Session) (kernel : Handle) (first : Nat) :
    List (Token × Entity) → Kernel → Kernel → Session → Prop
  | mk {n : Nat} {d : State} {k : Kernel} {set : List (Token × Entity)}
      {arguments : List Argument} : s.active = some n → s.fleet.get? n = some d →
      d.kernels.get? kernel.id = some k → Fits d kernel first set arguments →
      Sets s kernel first set k (k.setFrom first arguments)
        (s.withDriver n (d.setArguments kernel.id first arguments))

section Setting

variable {kernel : Handle} {values : List (Token × Entity)}

/-- What was set is memory or data. -/
theorem Sets.passed {first : Nat} {k k' : Kernel} {t : Session}
    (h : Sets s kernel first values k k' t) {v : Token × Entity} (hv : v ∈ values) :
    ∃ a, Passed v.2.object a := by
  cases h with
  | mk _ _ _ hfits =>
    obtain ⟨i, hi⟩ := List.mem_iff_getElem?.1 hv
    obtain ⟨a, ha, -⟩ := exists_of_mapM hfits.values hi
    exact ⟨a, argument?_eq_some_iff.1 ha⟩

/-- Where objects were set the driver in use has the kernel with them, and is the same otherwise. -/
theorem Sets.exists_driver {first : Nat} {k k' : Kernel} {t : Session}
    (h : Sets s kernel first values k k' t) :
    ∃ n d d', s.active = some n ∧ s.fleet.get? n = some d ∧ t.active = some n ∧
      t.fleet.get? n = some d' ∧ d'.kernels.get? kernel.id = some k' ∧ d'.bare = d.bare := by
  cases h with
  | @mk n d _ _ arguments hn hd hk _ =>
    refine ⟨n, d, d.setArguments kernel.id first arguments, hn, hd, hn,
      Session.get?_withDriver hd _, ?_, rfl⟩
    rw [State.get?_setArguments, hk, Option.map_some]

theorem Sets.name_eq {first : Nat} {k k' : Kernel} {t : Session}
    (h : Sets s kernel first values k k' t) : k'.name = k.name := by
  cases h with
  | mk => exact Kernel.name_setFrom _ _ _

/-- What is ready and cannot be set has no place in the kernel. -/
theorem rejects_of_not_settable {d : State} {k : Kernel} {t : Token} {e : Entity} {index : Nat}
    (h : s.Ready kernel values) (hd : s.driver? = some d)
    (hk : d.kernels.get? kernel.id = some k) (hv : (t, e) ∈ values)
    (hnot : ¬ Settable d kernel index e.object) : k.Rejects index e.object := by
  -- The kernel and the memory are there, so nothing else can stand in the way.
  by_contra hplace
  obtain ⟨hpassed, hlt⟩ := not_or.1 hplace
  obtain ⟨a, ha⟩ := not_forall_not.1 hpassed
  refine hnot ⟨⟨a, argument?_eq_some_iff.2 ha, fun id hid => ?_⟩, k, hk, Nat.lt_of_not_le hlt⟩
  subst hid
  generalize ho : e.object = o at ha
  cases ha with
  | memory m => exact (h.memory (t, e) hv m ho).2 d hd

/-- **What was read is set** up to the first object that has no place in the kernel. -/
theorem run_setting (h : s.Ready kernel values) (first : Nat) (c : Cursor) :
    ∃ set rest k k' t, values = set ++ rest ∧ Sets s kernel first set k k' t ∧
      (rest = [] ∧ (setting kernel first values).run c s = ((.ok (), c), t) ∨
        ∃ v later f, rest = v :: later ∧ k.Rejects (first + set.length) v.2.object ∧
          (setting kernel first values).run c s = ((.error f, c), t)) := by
  obtain ⟨k, hk⟩ := Option.isSome_iff_exists.1 h.kernel
  obtain ⟨d, hd, hget⟩ := Option.bind_eq_some_iff.1 hk
  obtain ⟨n, hn, hdriver⟩ := Session.exists_of_driver? hd
  have hactive : (liftM Action.activeDriver : Reading State).run c s = ((.ok d, c), s) :=
    gives_activeDriver hd
  obtain ⟨set, rest, arguments, rfl, hfits, hend, hanswer⟩ :=
    exists_of_setArguments kernel first values hn hdriver
  refine ⟨set, rest, k, _, _, rfl, .mk hn hdriver hget hfits, ?_⟩
  unfold setting
  rw [run_bind, hactive]
  dsimp only
  rw [run_liftM, hend]
  obtain ⟨rfl, hok⟩ | ⟨t, e, later, f, rfl, hnot, hf⟩ := hanswer
  · exact .inl ⟨rfl, by rw [hok]⟩
  · refine .inr ⟨(t, e), later, f, rfl, ?_, by rw [hf]⟩
    exact rejects_of_not_settable h hd hget (List.mem_append_right _ List.mem_cons_self) hnot

/-- **A line for a kernel** fails in reading its operands, or has read all of them and set the
objects among them, up to the first one that has no place in the kernel. Only if there is none, the
line goes on. -/
theorem run_behind_setting {α β : Type} {operands : Reading α} (kernel : α → Handle)
    (first : α → Nat) (values : α → List (Token × Entity)) (last : α → Reading β)
    (hreads : Within Session.Reads operands)
    (hready : ∀ plan c' read, Gives operands c s plan c' read →
      read.Ready (kernel plan) (values plan)) :
    (∃ f c' t, operands.run c s = ((.error f, c'), t) ∧ s.Reads t ∧ (do
        let plan ← operands
        setting (kernel plan) (first plan) (values plan)
        last plan).run c s = ((.error f, c'), t)) ∨
    ∃ plan c' read set rest k k' t, Gives operands c s plan c' read ∧ s.Reads read ∧
      values plan = set ++ rest ∧ Sets read (kernel plan) (first plan) set k k' t ∧
      (rest = [] ∧ (do
          let plan ← operands
          setting (kernel plan) (first plan) (values plan)
          last plan).run c s = (last plan).run c' t ∨
        ∃ v later f, rest = v :: later ∧ k.Rejects (first plan + set.length) v.2.object ∧ (do
          let plan ← operands
          setting (kernel plan) (first plan) (values plan)
          last plan).run c s = ((.error f, c'), t)) := by
  simp only [run_bind]
  have hframe := hreads c s
  rcases hr : operands.run c s with ⟨⟨f | plan, c'⟩, read⟩
  · rw [hr] at hframe
    exact .inl ⟨f, c', read, rfl, hframe, rfl⟩
  · rw [hr] at hframe
    obtain ⟨set, rest, k, k', t, heq, hsets, hanswer⟩ :=
      run_setting (hready plan c' read hr) (first plan) c'
    refine .inr ⟨plan, c', read, set, rest, k, k', t, hr, hframe, heq, hsets, ?_⟩
    dsimp only
    refine hanswer.imp (fun h => ⟨h.1, by rw [h.2]⟩) ?_
    rintro ⟨v, later, f, hrest, hrejects, hrun⟩
    exact ⟨v, later, f, hrest, hrejects, by rw [hrun]⟩

end Setting

end Statement

namespace Session

open Reading Statement

variable {s t : Session} {line : String}

/-! ## What a line does to kernels -/

/-- **A line that names a command** does to kernels what the command does. -/
theorem runLine_of_command {command : Command} {answer : Except Failure Outcome} {c : Cursor}
    (hcommand : command? (Cursor.ofLine line) = some command)
    (hrun : (perform DriverBench.runScript command).run (Cursor.ofLine line).advance
      (s.note (.ran s.depth line)) = ((answer, c), t)) :
    (s.runLine line).1 = answer.toOption.getD .fail ∧
      (s.runLine line).2.driver? = t.dropTemporaries.driver? ∧
      t.Turns (fun _ k => k) (s.runLine line).2 := by
  have hdropped := (reads_dropTemporaries t).turns
  unfold runLine
  rw [runLineWith_of_command hcommand, hrun]
  cases answer with
  | ok o => exact ⟨rfl, rfl, hdropped⟩
  | error f => exact ⟨rfl, rfl, hdropped.trans (turns_of_driver?_eq rfl fun _ _ => Iff.rfl)⟩

/-- **A line that sets objects** has given them to the kernel, if it has only read before and turns
no kernel afterwards. -/
theorem Reached.gaveObjects (hs : s.Reached) {command : Command} {kernel : Handle} {first : Nat}
    {set : List (Token × Entity)} {k k' : Kernel} {read u : Session} {c : Cursor}
    {answer : Except Failure Outcome} (hcommand : command? (Cursor.ofLine line) = some command)
    (hread : (s.note (.ran s.depth line)).Reads read) (hsets : Sets read kernel first set k k' t)
    (hturns : t.Turns (fun _ k => k) u)
    (hrun : (perform DriverBench.runScript command).run (Cursor.ofLine line).advance
      (s.note (.ran s.depth line)) = ((answer, c), u)) :
    (s.runLine line).1 = answer.toOption.getD .fail ∧
      s.GaveObjects read (s.runLine line).2 kernel first (set.map (·.2.object)) k k' := by
  obtain ⟨houtcome, -, hafter⟩ := runLine_of_command hcommand hrun
  refine ⟨houtcome, ?_⟩
  cases hsets with
  | mk hn hd hk hfits =>
    exact ((turns_note s _).trans hread.turns).gaveObjects hs.idle (hs.runLine line).idle hn hd hk
      hfits (hturns.trans hafter)

/-- A line that has only read changes no kernel. -/
theorem Reached.kernel?_of_reads (hs : s.Reached) (hread : (s.note (.ran s.depth line)).Reads t)
    (hafter : t.Turns (fun _ k => k) (s.runLine line).2) (id : Nat) :
    (s.runLine line).2.kernel? id = s.kernel? id := by
  have hturns := ((turns_note s (.ran s.depth line)).trans hread.turns).trans hafter
  rw [hturns.kernel?_eq hs.idle (hs.runLine line).idle]
  exact Option.map_id'

/-- The operands of `bind` are ready when they have been read. -/
theorem Reached.ready_of_bindOperands (hs : s.Reached) {c c' : Cursor} {plan : BindPlan}
    {read : Session} (h : Gives bindOperands c (s.note (.ran s.depth line)) plan c' read) :
    BindLine c (s.note (.ran s.depth line)) plan read ∧ read.Ready plan.kernel plan.values := by
  have hnoted : (s.note (.ran s.depth line)).Idle := hs.idle.keeps (keeps_note s _)
  have hheld := ensures_bindOperands c _ hnoted.balanced
  have hline := BindLine.of_gives h
  unfold Gives at h
  rw [h] at hheld
  exact ⟨hline, hline.ready (hs.usable.fewer rfl rfl fun _ he => he) hheld⟩

/-- **What `bind` does**: its operands cannot be read, and it fails and has changed no kernel; or
all of them were read, and of the objects those have been given to the kernel that stand in front of
the first one that has no place in it. If there is none all is well, and otherwise the line fails.
-/
theorem Reached.bind_cases (hs : s.Reached)
    (hcommand : command? (Cursor.ofLine line) = some .bind) :
    (Fails bindOperands (Cursor.ofLine line).advance (s.note (.ran s.depth line)) ∧
      (s.runLine line).1 = .fail ∧ ∀ id, (s.runLine line).2.kernel? id = s.kernel? id) ∨
    ∃ plan read set rest k k',
      BindLine (Cursor.ofLine line).advance (s.note (.ran s.depth line)) plan read ∧
      plan.values = set ++ rest ∧
      s.GaveObjects read (s.runLine line).2 plan.kernel plan.first (set.map (·.2.object)) k k' ∧
      (rest = [] ∧ (s.runLine line).1 = .good ∨
        ∃ v later, rest = v :: later ∧ k.Rejects (plan.first + set.length) v.2.object ∧
          (s.runLine line).1 = .fail) := by
  obtain ⟨f, c', t, hfails, hread, hrun⟩ | ⟨plan, c', read, set, rest, k, k', t, hgives, hread, heq,
      hsets, hanswer⟩ :=
    run_behind_setting (c := (Cursor.ofLine line).advance) (s := s.note (.ran s.depth line))
      BindPlan.kernel BindPlan.first BindPlan.values (fun _ => pure Outcome.good)
      within_bindOperands
      fun plan c' read h => (hs.ready_of_bindOperands h).2
  · rw [← bindArguments_eq] at hrun
    obtain ⟨houtcome, -, hafter⟩ := runLine_of_command hcommand hrun
    exact .inl ⟨⟨f, c', t, hfails⟩, houtcome, hs.kernel?_of_reads hread hafter⟩
  · have hline := (hs.ready_of_bindOperands hgives).1
    rw [← bindArguments_eq] at hanswer
    obtain ⟨rfl, hrun⟩ | ⟨v, later, f, rfl, hrejects, hrun⟩ := hanswer
    · obtain ⟨houtcome, hgave⟩ := hs.gaveObjects hcommand hread hsets (turns_refl t) hrun
      exact .inr ⟨plan, read, set, [], k, k', hline, heq, hgave, .inl ⟨rfl, houtcome⟩⟩
    · obtain ⟨houtcome, hgave⟩ := hs.gaveObjects hcommand hread hsets (turns_refl t) hrun
      exact .inr ⟨plan, read, set, v :: later, k, k', hline, heq, hgave,
        .inr ⟨v, later, rfl, hrejects, houtcome⟩⟩

/-- **`bind` sets slots one behind the other**, and the number of the next slot never gets too large
for what numbers slots. In front of each object the objects before it have been set; so the number
that it goes by, the first one and as many more, is below `2 ^ 32`, if the kernel does not have that
many parameters. If all is well, there was an object at least, there are slots for all of them, they
are in these slots in their order, and nothing was done to the other slots and to other kernels. -/
theorem Reached.bind_gives_objects (hs : s.Reached)
    (hcommand : command? (Cursor.ofLine line) = some .bind) :
    (∀ plan read, BindLine (Cursor.ofLine line).advance (s.note (.ran s.depth line)) plan read →
      (∀ k, read.kernel? plan.kernel.id = some k → k.slots.length < 2 ^ 32) →
      ∀ i t, i < plan.values.length →
        (setArguments plan.kernel plan.first (plan.values.take i)).Gives read () t →
          plan.first + i < 2 ^ 32) ∧
    ((s.runLine line).1 = .good → ∃ plan read k k',
      BindLine (Cursor.ofLine line).advance (s.note (.ran s.depth line)) plan read ∧
      1 ≤ plan.values.length ∧ plan.first + plan.values.length ≤ k.slots.length ∧
      s.GaveObjects read (s.runLine line).2 plan.kernel plan.first
        (plan.values.map (·.2.object)) k k') := by
  refine ⟨fun plan read hline hslots i t hi hset => hline.add_lt hslots hi hset, fun hgood => ?_⟩
  obtain ⟨-, hfail, -⟩ | ⟨plan, read, set, rest, k, k', hline, heq, hgave, hanswer⟩ :=
    hs.bind_cases hcommand
  · rw [hgood] at hfail
    cases hfail
  obtain ⟨rfl, -⟩ | ⟨v, later, -, -, hfail⟩ := hanswer
  · rw [List.append_nil] at heq
    have hne : plan.values ≠ [] := hline.values_ne_nil
    rw [heq] at hne
    have hroom := hgave.receives.room (by simpa using hne)
    rw [List.length_map] at hroom
    refine ⟨plan, read, k, k', hline, ?_, ?_, ?_⟩
    · rw [heq]
      exact List.length_pos_iff.2 hne
    · rw [heq]
      exact hroom
    · rw [heq]
      exact hgave
  · rw [hgood] at hfail
    cases hfail

/-- A number for the second one of two slots: the first one stays empty. -/
theorem second_slot_after_bind :
    let s := after ["p = program(\"kernel void k(int a, int b) \x7b \x7d\")", "k = kernel(p, k)"]
    let line := "bind k 1, int(7)"
    ∃ plan read k k',
      BindLine (Cursor.ofLine line).advance (s.note (.ran s.depth line)) plan read ∧
      plan.first < 2 ^ 32 ∧ plan.first + plan.values.length ≤ 2 ∧
      s.GaveObjects read (s.runLine line).2 plan.kernel plan.first
        (plan.values.map (·.2.object)) k k' ∧
      k.slots = [none, none] ∧ k'.slots = [none, some (.bytes [7, 0, 0, 0])] := by
  intro s line
  have hs : s.Reached := reached_after _
  have hbefore : (s.kernel? 2).map Kernel.slots = some [none, none] := by decide +kernel
  have hafter : ((s.runLine line).2.kernel? 2).map Kernel.slots =
      some [none, some (.bytes [7, 0, 0, 0])] := by decide +kernel
  have hcommand : command? (Cursor.ofLine line) = some .bind := by decide +kernel
  obtain ⟨hindex, hgood⟩ := hs.bind_gives_objects hcommand
  obtain ⟨plan, read, k, k', hline, hcount, hroom, hgave⟩ := hgood (by decide +kernel)
  obtain ⟨hslots, hslots'⟩ := hgave.slots_of_ne hbefore hafter (by decide)
  have htwo : k.slots.length = 2 := congrArg List.length hslots
  refine ⟨plan, read, k, k', hline, ?_, htwo ▸ hroom, hgave, hslots, hslots'⟩
  refine hindex plan read hline (fun k₀ hk₀ => ?_) 0 read hcount rfl
  obtain rfl := Option.some.inj (hgave.found.symm.trans hk₀)
  rw [htwo]
  decide

end Session

end DriverBench
