import DriverBench.Proofs.Command.InFlight
import DriverBench.Proofs.Environment.OrderedMap
import DriverBench.Proofs.Script.Trace
import DriverBench.Proofs.Session.Bindings
import DriverBench.Proofs.Token.Grammar
/-!
# What `release` takes away

The command goes through its whole list before it takes the first binding away. A list that it can
go through (`Statement.Releasable`) has bound names and commas only; from such a list it comes to
the table without the names, and only what it says of that can still fail. Wherever else it ends,
in the middle of the list or at an invalid token behind it, the table is as it was.

What lines do with the bindings is either to add one under a name that was not bound or to take some
away, so no name is ever bound twice (`Reached.distinct`).
-/

namespace DriverBench

open Device Simulator

namespace Statement

open Reading

/-- What the list of names to be released may have: commas, and names that are bound. -/
def Releasable (env : Environment Entity) (ts : List Token) : Prop :=
  ∀ t ∈ ts, t.kind = .comma ∨ t.kind = .word ∧ env.contains t.text = true

instance (env : Environment Entity) (ts : List Token) : Decidable (Releasable env ts) :=
  inferInstanceAs (Decidable (∀ t ∈ ts, _))

/-- The names in a list. -/
def listedNames (ts : List Token) : List String :=
  (ts.filter fun t => t.kind = .word).map Token.text

theorem contains_of_listed {env : Environment Entity} {ts : List Token} (h : Releasable env ts)
    {n : String} (hn : n ∈ listedNames ts) : env.contains n = true := by
  obtain ⟨t, ht, rfl⟩ := List.mem_map.1 hn
  obtain ⟨hmem, hword⟩ := List.mem_filter.1 ht
  rcases h t hmem with hcomma | ⟨-, hbound⟩
  · rw [hcomma] at hword
    cases hword
  · exact hbound

/-! ## One element of the list -/

section Element

variable {line : String} {t : Token} {rest : List Token} {s : Session} {c : Cursor}

theorem gives_releasedName_of_end (hmore : c.hasMore = false) (names : List String) :
    Gives (releasedName names) c s (.done names) c s := by
  have hahead : hasMore.run c s = ((.ok false, c), s) := by rw [← hmore]; rfl
  unfold Gives releasedName
  rw [run_bind, hahead]
  rfl

theorem Releasable.kind_ne {env : Environment Entity} (h : Releasable env [t]) :
    t.kind ≠ .finish ∧ t.kind ≠ .invalid := by
  rcases h t (List.mem_singleton_self t) with hcomma | ⟨hword, -⟩
  · rw [hcomma]
    decide
  · rw [hword]
    decide

/-- In front of a valid token there is an element to be read. -/
theorem run_releasedName_cons (hfinish : t.kind ≠ .finish) (hvalid : t.kind ≠ .invalid)
    (names : List String) :
    (releasedName names).run ⟨line, t :: rest⟩ s =
      if t.kind = .comma then ((.ok (.next names), ⟨line, rest⟩), s)
      else if t.kind ≠ .word then
        ((.error (Fault.identifierRequired.atSpan t.span), ⟨line, rest⟩), s)
      else if !s.env.contains t.text then
        ((.error ((Fault.binding (.notFound t.text)).atSpan t.span), ⟨line, rest⟩), s)
      else ((.ok (.next (names ++ [t.text])), ⟨line, rest⟩), s) := by
  have hahead : hasMore.run ⟨line, t :: rest⟩ s = ((.ok true, ⟨line, t :: rest⟩), s) := by
    rw [← Cursor.hasMore_cons hfinish hvalid]
    rfl
  unfold releasedName
  rw [run_bind, hahead]
  dsimp only
  rw [if_neg (by decide), run_bind, gives_consume]
  dsimp only
  by_cases hcomma : t.kind = .comma
  · rw [if_pos hcomma, if_pos hcomma]
    rfl
  rw [if_neg hcomma, if_neg hcomma]
  by_cases hword : t.kind ≠ .word
  · rw [if_pos hword, if_pos hword]
    rfl
  rw [if_neg hword, if_neg hword, run_bind, gives_session]
  dsimp only
  split <;> rfl

/-- A comma is passed over, and a bound name is noted down. -/
theorem gives_releasedName (h : Releasable s.env [t]) (names : List String) :
    Gives (releasedName names) ⟨line, t :: rest⟩ s (.next (names ++ listedNames [t]))
      ⟨line, rest⟩ s := by
  unfold Gives
  rw [run_releasedName_cons h.kind_ne.1 h.kind_ne.2, listedNames, List.filter_singleton]
  rcases h t (List.mem_singleton_self t) with hcomma | ⟨hword, hbound⟩
  · simp [hcomma]
  · simp [hword, hbound]

/-- Every other valid token is the end of it. -/
theorem fails_releasedName (hfinish : t.kind ≠ .finish) (hvalid : t.kind ≠ .invalid)
    (h : ¬ Releasable s.env [t]) (names : List String) :
    ∃ f, (releasedName names).run ⟨line, t :: rest⟩ s = ((.error f, ⟨line, rest⟩), s) := by
  simp only [Releasable, List.mem_singleton, forall_eq, not_or, not_and] at h
  obtain ⟨hcomma, hbound⟩ := h
  rw [run_releasedName_cons hfinish hvalid, if_neg hcomma]
  by_cases hword : t.kind = .word
  · rw [if_neg (not_not_intro hword), if_pos (by simpa using hbound hword)]
    exact ⟨_, rfl⟩
  · rw [if_pos hword]
    exact ⟨_, rfl⟩

end Element

/-! ## The list -/

section List

variable {line : String} {ts : List Token} {s : Session}

theorem releasable_cons_iff {env : Environment Entity} {t : Token} :
    Releasable env (t :: ts) ↔ Releasable env [t] ∧ Releasable env ts := by
  simp [Releasable]

theorem listedNames_cons (t : Token) (ts : List Token) :
    listedNames (t :: ts) = listedNames [t] ++ listedNames ts := by
  rw [listedNames, ← List.singleton_append, List.filter_append, List.map_append, listedNames,
    listedNames]

/-- A list of bound names and commas is gone through to its end. -/
theorem gives_releasedNames (h : Releasable s.env ts) (names : List String) :
    Gives (loop releasedName names) ⟨line, ts⟩ s (names ++ listedNames ts) ⟨line, []⟩ s := by
  induction ts generalizing names with
  | nil =>
    rw [listedNames, List.filter_nil, List.map_nil, List.append_nil]
    exact gives_loop_of_done (gives_releasedName_of_end rfl names)
  | cons t ts ih =>
    obtain ⟨hhead, htail⟩ := releasable_cons_iff.1 h
    rw [listedNames_cons, ← List.append_assoc]
    exact gives_loop_of_next (gives_releasedName hhead names) (Nat.lt_succ_self _) (ih htail _)

/-- **No other list** comes to what is done behind it: it fails before, and nothing has changed. -/
theorem fails_releasedNames {α : Type} (k : List String → Reading α)
    (hfinish : ∀ t ∈ ts, t.kind ≠ .finish) (h : ¬ Releasable s.env ts) (names : List String) :
    ∃ f c, (loop releasedName names >>= fun names => refuseInvalid >>= fun _ => k names).run
      ⟨line, ts⟩ s = ((.error f, c), s) := by
  induction ts generalizing names with
  | nil => exact absurd (fun _ ht => absurd ht List.not_mem_nil) h
  | cons t ts ih =>
    by_cases hvalid : t.kind = .invalid
    · -- The list ends here, and the token is refused behind it.
      have hdone : Gives (loop releasedName names) ⟨line, t :: ts⟩ s names ⟨line, t :: ts⟩ s :=
        gives_loop_of_done (gives_releasedName_of_end (by simp [Cursor.hasMore, hvalid]) names)
      refine ⟨t.invalidFailure, ⟨line, t :: ts⟩, ?_⟩
      rw [run_bind, hdone]
      dsimp only
      rw [run_bind, run_refuseInvalid, Cursor.current_cons, if_pos hvalid]
    by_cases hhead : Releasable s.env [t]
    · have hlater : ¬ Releasable s.env ts := fun hts => h (releasable_cons_iff.2 ⟨hhead, hts⟩)
      obtain ⟨f, c, hrun⟩ := ih (fun u hu => hfinish u (List.mem_cons_of_mem t hu)) hlater
        (names ++ listedNames [t])
      refine ⟨f, c, ?_⟩
      rw [run_bind] at hrun ⊢
      rwa [run_loop_of_next (gives_releasedName hhead names) (Nat.lt_succ_self _)]
    · obtain ⟨f, hstep⟩ : ∃ f, (releasedName names).run ⟨line, t :: ts⟩ s =
          ((.error f, ⟨line, ts⟩), s) :=
        fails_releasedName (hfinish t List.mem_cons_self) hvalid hhead names
      exact ⟨f, ⟨line, ts⟩, by rw [run_bind, run_loop_of_error hstep]⟩

end List

end Statement

namespace Session

variable {s s' : Session} {names : List String}

theorem exists_unbind (h : ∀ n ∈ names, s.env.contains n = true) :
    ∃ count s', s.unbind names = .ok (count, s') := by
  have hnone : (names.find? fun n => !s.env.contains n) = none :=
    List.find?_eq_none.2 fun n hn => by simp [h n hn]
  unfold unbind Environment.release
  rw [hnone]
  exact ⟨_, _, rfl⟩

end Session

namespace Statement

open Reading

/-! ## The command -/

section Command

variable {line : String} {ts : List Token} {s : Session} {c : Cursor}

/-- What is done when the list has been read. -/
def releaseListed (names : List String) : Reading Outcome := do
  match (← session).unbind names with
  | .error e => Action.raise (.binding e)
  | .ok (count, s) => do
    change fun _ => s
    Action.note s!"{count} 個の束縛を解放しました"
    return .good

theorem run_release (c : Cursor) (s : Session) :
    release.run c s =
      if c.hasMore then
        (loop releasedName [] >>= fun names =>
          refuseInvalid >>= fun _ => releaseListed names).run c s
      else ((.error (Fault.releaseNamesRequired.atSpan c.current.span), c), s) := by
  have hahead : hasMore.run c s = ((.ok c.hasMore, c), s) := rfl
  unfold release
  rw [run_bind, hahead]
  cases c.hasMore <;> rfl

/-- Bound names are taken away; what can still fail is to say so. -/
theorem run_releaseListed {names : List String} (h : ∀ n ∈ names, s.env.contains n = true) :
    ∃ s', s'.env = s.env.keep (fun b => !names.contains b.1) ∧
      ((releaseListed names).run c s = ((.ok .good, c), s') ∨
        ∃ f, (releaseListed names).run c s = ((.error f, c), s') ∧ s.NoteLost f) := by
  obtain ⟨count, s₁, hu⟩ := Session.exists_unbind h
  have hcalm : s.options = s₁.options ∧ s.out = s₁.out := by
    obtain ⟨env, fleet, rfl⟩ := Session.unbind_eq hu
    exact ⟨rfl, rfl⟩
  have hnote : Session.Spares s₁ ((Action.note s!"{count} 個の束縛を解放しました").run.run s₁).2 :=
    Action.within_note _ s₁
  have hrun : (releaseListed names).run c s =
      match (Action.note s!"{count} 個の束縛を解放しました").run.run s₁ with
      | (.ok _, t) => ((.ok .good, c), t)
      | (.error f, t) => ((.error f, c), t) := by
    unfold releaseListed
    rw [run_bind, gives_session]
    dsimp only
    rw [hu]
    dsimp only
    rw [run_bind, gives_change]
    dsimp only
    rw [run_bind, run_liftM]
    rcases (Action.note s!"{count} 個の束縛を解放しました").run.run s₁ with ⟨f | u, t⟩ <;> rfl
  rcases hn : (Action.note s!"{count} 個の束縛を解放しました").run.run s₁ with ⟨f | u, t⟩
  · rw [hn] at hrun hnote
    refine ⟨t, hnote.env.trans (Session.env_of_unbind hu), .inr ⟨f, hrun, ?_⟩⟩
    have hlost := noteLost_of_note hn
    rwa [Session.NoteLost, ← hcalm.1, ← hcalm.2] at hlost
  · rw [hn] at hrun hnote
    exact ⟨t, hnote.env.trans (Session.env_of_unbind hu), .inl hrun⟩

/-- **A list that `release` can go through** is taken away. -/
theorem run_release_of_releasable (line : String) (hne : ts ≠ []) (h : Releasable s.env ts) :
    ∃ s' c', s'.env = s.env.keep (fun b => !(listedNames ts).contains b.1) ∧
      (release.run ⟨line, ts⟩ s = ((.ok .good, c'), s') ∨
        ∃ f, release.run ⟨line, ts⟩ s = ((.error f, c'), s') ∧ s.NoteLost f) := by
  obtain ⟨t, rest, rfl⟩ := List.exists_cons_of_ne_nil hne
  have hhead := (releasable_cons_iff.1 h).1
  have hmore : (⟨line, t :: rest⟩ : Cursor).hasMore = true :=
    Cursor.hasMore_cons hhead.kind_ne.1 hhead.kind_ne.2
  have hrun : release.run ⟨line, t :: rest⟩ s =
      (releaseListed (listedNames (t :: rest))).run ⟨line, []⟩ s := by
    rw [run_release, if_pos hmore, run_bind, gives_releasedNames h []]
    dsimp only
    rw [List.nil_append, run_bind, run_refuseInvalid,
      if_neg (by simp [Cursor.current, Cursor.finish, Token.finishAt])]
  obtain ⟨s', henv, hcases⟩ := run_releaseListed (c := ⟨line, []⟩)
    fun n hn => contains_of_listed h hn
  rw [hrun]
  exact ⟨s', ⟨line, []⟩, henv, hcases⟩

/-- **Of any other list nothing** is taken away. -/
theorem run_release_of_not_releasable (line : String) (hfinish : ∀ t ∈ ts, t.kind ≠ .finish)
    (h : ¬ (ts ≠ [] ∧ Releasable s.env ts)) :
    ∃ f c', release.run ⟨line, ts⟩ s = ((.error f, c'), s) := by
  rw [run_release]
  by_cases hmore : (⟨line, ts⟩ : Cursor).hasMore = true
  · have hne : ts ≠ [] := by
      rintro rfl
      cases hmore
    rw [if_pos hmore]
    exact fails_releasedNames releaseListed hfinish (fun hts => h ⟨hne, hts⟩) []
  · rw [if_neg hmore]
    exact ⟨_, _, rfl⟩

end Command

end Statement

namespace Session

open Statement (command? Releasable listedNames)

/-! ## The line -/

section Line

variable {line : String} {s s' : Session}

/-- The tokens behind the name of a command. -/
def argumentTokens (line : String) : List Token :=
  (Cursor.ofLine line).advance.pending

theorem kind_ne_finish_of_argument {t : Token} (ht : t ∈ argumentTokens line) :
    t.kind ≠ .finish :=
  (Token.divides_scan (Token.border_nil line.toList)).kind_ne_finish (List.mem_of_mem_tail ht)

theorem report_env (s : Session) (line : String) (f : Failure) : (s.report line f).env = s.env := by
  obtain ⟨err, heq⟩ := s.report_eq line f
  rw [heq]

theorem runLine_of_release (hname : command? (Cursor.ofLine line) = some .release) (s : Session) :
    s.runLine line =
      match Statement.release.run ⟨line, argumentTokens line⟩ (s.note (.ran s.depth line)) with
      | ((.ok outcome, _), t) => (outcome, t.dropTemporaries)
      | ((.error f, _), t) => (.fail, t.dropTemporaries.report line f) :=
  runLineWith_of_command hname s

/-- **A line `release`** whose list is of bound names and commas takes just those names away, and is
good unless its note is lost. -/
theorem runLine_release (hname : command? (Cursor.ofLine line) = some .release)
    (hne : argumentTokens line ≠ []) (h : Releasable s.env (argumentTokens line)) :
    (s.runLine line).2.env =
        s.env.keep (fun b => !(listedNames (argumentTokens line)).contains b.1) ∧
      ((s.options.verbose = true → s.out.broken = none) → (s.runLine line).1 = .good) := by
  obtain ⟨s', c', henv, hcases⟩ := Statement.run_release_of_releasable line
    (s := s.note (.ran s.depth line)) hne h
  have hspares : s'.dropTemporaries.env = s'.env := (spares_dropTemporaries s').env
  rw [runLine_of_release hname]
  rcases hcases with hgood | ⟨f, hfail, hverbose, why, hbroken, -⟩
  · rw [hgood]
    exact ⟨hspares.trans henv, fun _ => rfl⟩
  · rw [hfail]
    refine ⟨(report_env _ _ _).trans (hspares.trans henv), fun hnote => ?_⟩
    cases (hnote hverbose).symm.trans hbroken

/-- **Any other line `release`** fails and takes nothing away. -/
theorem runLine_release_of_not (hname : command? (Cursor.ofLine line) = some .release)
    (h : ¬ (argumentTokens line ≠ [] ∧ Releasable s.env (argumentTokens line))) :
    (s.runLine line).2.env = s.env ∧ (s.runLine line).1 = .fail := by
  obtain ⟨f, c, hrun⟩ := Statement.run_release_of_not_releasable line
    (s := s.note (.ran s.depth line)) (fun _ => kind_ne_finish_of_argument) h
  rw [runLine_of_release hname, hrun]
  exact ⟨(report_env _ _ _).trans (spares_dropTemporaries _).env, rfl⟩

end Line

/-! ## Names are bound once -/

/-- No name is bound twice. -/
def Distinct (s : Session) : Prop :=
  s.env.names.Nodup

theorem lines_distinct : Lines (Preserves (OfBindings fun env => env.names.Nodup)) :=
  lines_ofBindings (fun _ p h => Environment.nodup_keep h p) fun _ s h =>
    Statement.within_assignment (R := Preserves (OfBindings fun env => env.names.Nodup))
      (fun _ _ hreads hs => hs.of_env hreads.env)
      (fun _ _ _ _ hi hs => Environment.nodup_insert hs hi) _ s h

/-- **In every session that lines lead to** no name is bound twice. -/
theorem Reached.distinct {s : Session} (hs : s.Reached) : s.Distinct :=
  hs.ofBindings lines_distinct List.nodup_nil

/-- **Bindings are an ordered map**, of which names are released all at once or not at all.
Operations on a table that was empty answer what they answer on a map whose names have an order, and
lead to a table that represents what the map has become, without a name that stands twice. Sessions
have no other tables. A line `release` takes away just the names of its list, if that is a list of
bound names and commas; of a list with anything else in it, or with nothing, it takes none away. -/
theorem bindings_are_ordered_map :
    (∀ (α : Type) (os : List (BindingOperation α)),
      (performAll Environment.perform {} os).1 = (performAll OrderedMap.perform {} os).1 ∧
      (performAll Environment.perform {} os).2.Represents
        (performAll OrderedMap.perform {} os).2 ∧
      (performAll Environment.perform {} os).2.bindings =
        (performAll OrderedMap.perform {} os).2.listing) ∧
    (∀ s : Session, s.Reached → s.env.names.Nodup) ∧
    ∀ (s : Session) (line : String), command? (Cursor.ofLine line) = some .release →
      (argumentTokens line ≠ [] ∧ Releasable s.env (argumentTokens line) →
        (s.runLine line).2.env.bindings =
            s.env.bindings.filter (fun b => b.1 ∉ listedNames (argumentTokens line)) ∧
          ((s.options.verbose = true → s.out.broken = none) → (s.runLine line).1 = .good)) ∧
      (¬ (argumentTokens line ≠ [] ∧ Releasable s.env (argumentTokens line)) →
        (s.runLine line).2.env = s.env ∧ (s.runLine line).1 = .fail) := by
  refine ⟨fun α os => ?_, fun s hs => hs.distinct, fun s line hname => ⟨?_, ?_⟩⟩
  · obtain ⟨hanswers, hrest⟩ := (Environment.Represents.empty (α := α)).performAll os
    exact ⟨hanswers, hrest, hrest.bindings⟩
  · rintro ⟨hne, h⟩
    obtain ⟨henv, hgood⟩ := runLine_release hname hne h
    refine ⟨?_, hgood⟩
    rw [henv, Environment.keep]
    simp only [List.contains_eq_mem, decide_not]
  · exact fun h => runLine_release_of_not hname h

/-- Two of three names are released, one of them twice; a name that is not bound at the end of a
list, and an invalid token there, leave all three as they are. -/
theorem bindings_after_release :
    let s := after ["a = int(1)", "b = int(2)", "c = a"]
    (command? (Cursor.ofLine "release c, a c") = some .release ∧
      (s.runLine "release c, a c").2.env.names = ["b"] ∧
      (s.runLine "release c, a c").1 = .good) ∧
    ∀ line ∈ ["release a, zzz", "release a b $", "release a 1"],
      command? (Cursor.ofLine line) = some .release ∧
        (s.runLine line).2.env.names = ["a", "b", "c"] ∧ (s.runLine line).1 = .fail := by
  intro s
  have hnames : s.env.names = ["a", "b", "c"] := by decide +kernel
  have hlaw := bindings_are_ordered_map.2.2 s
  refine ⟨⟨by decide +kernel, ?_⟩, fun line hline => ?_⟩
  · obtain ⟨hbindings, hgood⟩ := (hlaw "release c, a c" (by decide +kernel)).1 (by decide +kernel)
    refine ⟨?_, hgood fun _ => by decide +kernel⟩
    rw [Environment.names, hbindings]
    decide +kernel
  · have hname : command? (Cursor.ofLine line) = some .release := by
      revert line
      decide +kernel
    have hnot : ¬ (argumentTokens line ≠ [] ∧ Releasable s.env (argumentTokens line)) := by
      revert line
      decide +kernel
    obtain ⟨henv, hfail⟩ := (hlaw line hname).2 hnot
    exact ⟨hname, by rw [henv, hnames], hfail⟩

end Session

end DriverBench
