import DriverBench.Proofs.Command.Execute
import DriverBench.Proofs.Session.Reached
/-!
# A line that fails

A line that fails has taken nothing away, since every command spares the session until nothing can
fail any more; and it leaves nothing behind, since what the drivers keep is what the session refers
to. Together that is more than either: the drivers keep just what they kept, with the contents that
it had.
-/

namespace DriverBench

open Device Simulator

/-- Nothing of a driver differs but the last id and the arguments that kernels have. -/
structure Simulator.State.Undisturbed (d d' : State) : Prop where
  serial : d'.serial = d.serial
  launches : d'.launches = d.launches
  flushes : d'.flushes = d.flushes
  finishes : d'.finishes = d.finishes
  selection : d'.selection = d.selection
  blocking : d'.blocking = d.blocking
  memories : ∀ id, d'.memories.get? id = d.memories.get? id
  programs : ∀ id, d'.programs.get? id = d.programs.get? id
  kernels : ∀ id, (d'.kernels.get? id).map (fun k => (k.name, k.slots.length)) =
    (d.kernels.get? id).map fun k => (k.name, k.slots.length)

/-- Nothing of a session differs that matters to the lines to come. Objects of the host may have
been added to those that operations under way may use. -/
structure Session.Undisturbed (s s' : Session) : Prop where
  env : s'.env = s.env
  options : s'.options = s.options
  depth : s'.depth = s.depth
  active : s'.active = s.active
  files : s'.files = s.files
  inFlight : ∃ es, s'.inFlight = s.inFlight ++ es ∧ ∀ e ∈ es, e.object.handle? = none
  drivers : Fleet.Pairs State.Undisturbed s.fleet s'.fleet

namespace Simulator.State

/-! ## Drivers -/

/-- Entries that are alike stand in the same places. -/
theorem Alike.lookup {d d' : State} (h : d.Alike d') (kind : HandleKind) (id : Nat) :
    Option.Rel Entry.Like (d.lookup kind id) (d'.lookup kind id) := by
  have hkept : ∀ (d : State) (x : Entry), d.lookup kind id = some x →
      d.kept? ⟨id, x.kind, none⟩ = some x := by
    intro d x hx
    have htable := table_eq_of_lookup hx
    exact Option.filter_eq_some_iff.2 ⟨(lookup_congr htable).trans hx, by simp⟩
  cases hx : d.lookup kind id with
  | some x =>
    have hrel := h.entry ⟨id, x.kind, none⟩
    rw [hkept d x hx] at hrel
    cases hy : d'.kept? ⟨id, x.kind, none⟩ with
    | none =>
      rw [hy] at hrel
      cases hrel
    | some y =>
      rw [hy] at hrel
      have hl : d'.lookup kind id = some y :=
        (lookup_congr (table_eq_of_lookup hx)).symm.trans (Option.filter_eq_some_iff.1 hy).1
      rw [hl]
      exact hrel
  | none =>
    cases hy : d'.lookup kind id with
    | none => exact .none
    | some y =>
      have hrel := h.entry ⟨id, y.kind, none⟩
      rw [hkept d' y hy] at hrel
      have hnone : d.kept? ⟨id, y.kind, none⟩ = none := by
        have hl : d.lookup y.kind id = none := (lookup_congr (table_eq_of_lookup hy)).trans hx
        unfold kept?
        rw [hl]
        rfl
      rw [hnone] at hrel
      cases hrel

theorem Alike.undisturbed {d d' : State} (h : d.Alike d') : d.Undisturbed d' := by
  have hfield : ∀ {β : Type} (g : State → β), g d'.bare = g d.bare := fun g => congrArg g h.bare
  refine ⟨hfield State.serial, hfield State.launches, hfield State.flushes, hfield State.finishes,
    hfield State.selection, hfield State.blocking, fun id => ?_, fun id => ?_, fun id => ?_⟩
  · have hl := h.lookup .buffer id
    simp only [State.lookup] at hl
    generalize d.memories.get? id = o, d'.memories.get? id = o' at hl ⊢
    cases o <;> cases o' <;> cases hl
    case some.some.some hlike => exact congrArg some (Entry.memory.inj hlike).symm
    rfl
  · have hl := h.lookup .program id
    simp only [State.lookup] at hl
    generalize d.programs.get? id = o, d'.programs.get? id = o' at hl ⊢
    cases o <;> cases o' <;> cases hl
    case some.some.some hlike => exact congrArg some (Entry.program.inj hlike).symm
    rfl
  · have hl := h.lookup .kernel id
    simp only [State.lookup] at hl
    generalize d.kernels.get? id = o, d'.kernels.get? id = o' at hl ⊢
    cases o <;> cases o' <;> cases hl
    case some.some.some hlike =>
      rw [Option.map_some, Option.map_some, hlike.1, hlike.2]
    rfl

end Simulator.State

namespace Session

/-! ## Sessions -/

/-- What is reached is not changed by what only adds objects of the host. -/
theorem Spares.reachable_eq {s s' : Session} (h : s.Spares s') : s'.reachable = s.reachable := by
  obtain ⟨es, hes, hhost⟩ := h.inFlight
  have hnone : es.filterMap (·.object.handle?) = [] :=
    List.filterMap_eq_nil_iff.2 hhost
  rw [reachable, reachable, h.env, hes, ← List.append_assoc, List.filterMap_append, hnone,
    List.append_nil]

/-- **What was spared is as it was**, if both sessions are between two lines. -/
theorem Spares.pairs_alike {s s' : Session} (h : s.Spares s') (hs : s.Idle) (hs' : s'.Idle) :
    Fleet.Pairs State.Alike s.fleet s'.fleet := by
  intro n
  cases hd : s.fleet.get? n with
  | none =>
    have hn := h.fleet n
    rw [hd] at hn
    generalize s'.fleet.get? n = o at hn ⊢
    cases hn
    exact .none
  | some d =>
    obtain ⟨d', hd', hg⟩ := h.fleet.exists_of_left hd
    rw [hd']
    refine .some ⟨hg.bare, hg.lastId_le, fun k => ?_⟩
    -- The balance says of either driver what it keeps, and that is the same.
    have hlive : (d'.kept? k).isSome ↔ (d.kept? k).isSome := by
      have h₁ := hs.balanced.live { k with issuer := some n }
      have h₂ := hs'.balanced.live { k with issuer := some n }
      rw [Fleet.kept?_eq rfl hd, hs.handles_eq] at h₁
      rw [Fleet.kept?_eq rfl hd', hs'.handles_eq, h.reachable_eq] at h₂
      exact h₂.trans h₁.symm
    cases hx : d.kept? k with
    | none =>
      rw [hx] at hlive
      cases hy : d'.kept? k with
      | none => exact .none
      | some y =>
        rw [hy] at hlive
        exact absurd (hlive.1 rfl) (by simp)
    | some x =>
      rw [hx] at hlive
      obtain ⟨y, hy⟩ := Option.isSome_iff_exists.1 (hlive.2 rfl)
      have hid : k.id ≤ d.lastId := (hs.balanced.sound n d hd).2.1 k (by rw [hx]; rfl)
      obtain ⟨x', hx', hlike⟩ := hg.kept k y hid hy
      rw [hx] at hx'
      rw [hy, Option.some.inj hx']
      exact .some hlike

/-- Nothing is altered where a line lets go of what it held. -/
theorem reads_dropTemporaries (s : Session) : s.Reads s.dropTemporaries := by
  have hlet := builds_letGo { s with temporaries := [] } s.temporaries
  exact Frame.trans (reads_keep s []) ⟨hlet.toSpares, hlet.intact⟩

theorem spares_dropTemporaries (s : Session) : s.Spares s.dropTemporaries :=
  (reads_dropTemporaries s).toSpares

/-- A line whose command is not `script` spares the session when it fails. -/
theorem spares_of_error {runner : ScriptRunner} {s s' : Session} {line : String} {f : Failure}
    (hs : s.Unbroken) (hc : Statement.command? (Cursor.ofLine line) ≠ some .script)
    (hx : executeWith runner line s = (.error f, s')) : s.Spares s' := by
  unfold executeWith at hx
  rcases hrun : (Statement.execute runner).run (Cursor.ofLine line) s with ⟨⟨a, c⟩, s₁⟩
  rw [hrun] at hx
  obtain ⟨rfl, rfl⟩ := Prod.mk.inj hx
  refine Frame.trans (R := Spares) ?_ (spares_dropTemporaries s₁)
  rcases Statement.execute_cases runner (Cursor.ofLine line) with
    h | ⟨f', c', h⟩ | h | ⟨command, hn, h⟩
  · rw [h] at hrun
    cases hrun
  · rw [h] at hrun
    cases hrun
    exact Frame.refl s
  · have hfails := Statement.failsSparing_assignment s hs (Cursor.ofLine line) s rfl
    rw [h] at hrun
    rw [hrun] at hfails
    exact hfails
  · have hne : command ≠ .script := fun heq => hc (heq ▸ hn)
    have hfails := Statement.failsSparing_perform runner hne s hs (Cursor.ofLine line).advance s rfl
    rw [h] at hrun
    rw [hrun] at hfails
    exact hfails

/-- A line whose command is not `script` answers that all is well or that no more is to be run. -/
theorem ne_fail_of_ok {runner : ScriptRunner} {s s' : Session} {line : String} {o : Outcome}
    (hc : Statement.command? (Cursor.ofLine line) ≠ some .script)
    (hx : executeWith runner line s = (.ok o, s')) : o ≠ .fail := by
  unfold executeWith at hx
  rcases hrun : (Statement.execute runner).run (Cursor.ofLine line) s with ⟨⟨a, c⟩, s₁⟩
  rw [hrun] at hx
  obtain ⟨rfl, -⟩ := Prod.mk.inj hx
  rcases Statement.execute_cases runner (Cursor.ofLine line) with
    h | ⟨f', c', h⟩ | h | ⟨command, hn, h⟩
  · rw [h] at hrun
    cases hrun
    simp
  · rw [h] at hrun
    cases hrun
  · have hgood := Statement.answers_assignment (Cursor.ofLine line) s trivial
    rw [h] at hrun
    rw [hrun] at hgood
    simp [show o = .good from hgood]
  · have hne : command ≠ .script := fun heq => hc (heq ▸ hn)
    have hanswer := Statement.answers_perform runner hne (Cursor.ofLine line).advance s trivial
    rw [h] at hrun
    rw [hrun] at hanswer
    rw [show o = _ from hanswer]
    split <;> simp

/-- A line that fails, and is not `script`, failed while it was executed. -/
theorem exists_of_runLine_fail {s : Session} {line : String}
    (hc : Statement.command? (Cursor.ofLine line) ≠ some .script)
    (hf : (s.runLine line).1 = .fail) :
    ∃ f s', executeWith DriverBench.runScript line (s.note (.ran s.depth line)) = (.error f, s') ∧
      (s.runLine line).2 = s'.report line f := by
  unfold runLine runLineWith at hf ⊢
  dsimp only at hf ⊢
  rcases hx : executeWith DriverBench.runScript line (s.note (.ran s.depth line)) with ⟨f | o, s'⟩
  · exact ⟨f, s', rfl, rfl⟩
  · rw [hx] at hf
    exact absurd hf (ne_fail_of_ok hc hx)

/-- **A line that fails changes nothing that matters**: the bindings, the options, the driver in use
and the selection, what was recorded, what is alive and what it holds are as they were before the
line. -/
theorem Reached.undisturbed_of_fail {s : Session} (hs : s.Reached) (hu : s.Unbroken) {line : String}
    (hc : Statement.command? (Cursor.ofLine line) ≠ some .script)
    (hf : (s.runLine line).1 = .fail) : s.Undisturbed (s.runLine line).2 := by
  obtain ⟨f, s', hx, hline⟩ := exists_of_runLine_fail hc hf
  have hspares : (s.note (.ran s.depth line)).Spares s' := spares_of_error hu hc hx
  have hafter : (s.runLine line).2.Idle := (hs.runLine line).idle
  -- The report is on the streams and in the journal, which balance has nothing to do with.
  have hidle : s'.Idle := by
    rw [hline] at hafter
    exact ⟨hafter.balanced.move rfl rfl fun _ => Iff.rfl, hafter.temporaries⟩
  have hnoted : (s.note (.ran s.depth line)).Idle := hs.idle.keeps (keeps_note s _)
  have halike := hspares.pairs_alike hnoted hidle
  rw [hline]
  exact ⟨hspares.env, hspares.options, hspares.depth, hspares.active, hspares.files,
    hspares.inFlight, halike.mono fun _ _ h => h.undisturbed⟩

/-- A line that fails behind a clone that it made, and the session that it leaves as it was. -/
theorem undisturbed_of_kernel_of_buffer :
    ((after ["b = buffer(16)"]).runLine "k = kernel(clone(b), f)").1 = .fail ∧
      (after ["b = buffer(16)"]).Undisturbed
        ((after ["b = buffer(16)"]).runLine "k = kernel(clone(b), f)").2 := by
  have hc : Statement.command? (Cursor.ofLine "k = kernel(clone(b), f)") ≠ some .script := by
    decide +kernel
  have hu : (after ["b = buffer(16)"]).out.broken = none ∧
      (after ["b = buffer(16)"]).err.broken = none := by decide +kernel
  have hf : ((after ["b = buffer(16)"]).runLine "k = kernel(clone(b), f)").1 = .fail := by
    decide +kernel
  exact ⟨hf, (reached_after _).undisturbed_of_fail hu hc hf⟩

end Session

end DriverBench
