import DriverBench.Proofs.Expression.Recursion
import DriverBench.Proofs.Session.Release
import DriverBench.Proofs.Token.Name
/-!
# Bound names stay within reach

A name comes to be bound as a word of the line of an assignment, and in no other way. So every bound
name is one that scanning takes for a word wherever it stands (`Reached.isName`), and which word it
is does not matter then: an expression looks among the bindings before it looks among the words of
constructors, `release` does not look anywhere else, and in front of an equals sign no command is
looked for. Whatever a name is like, what it is bound to can be used under it, it cannot be bound
over, and it can be given free again.
-/

namespace DriverBench

open Token (IsName isWordPart)

/-! ## Where names come from -/

namespace Statement

open Reading

theorem run_target (c : Cursor) (s : Session) :
    target.run c s =
      if c.current.kind ≠ .word then
        ((.error (Fault.targetRequired.atSpan c.current.span), c.advance), s)
      else if s.env.contains c.current.text then
        ((.error ((Fault.binding (.alreadyBound c.current.text)).atSpan c.current.span),
          c.advance), s)
      else ((.ok c.current.text, c.advance), s) := by
  have hconsume : consume.run c s = ((.ok c.current, c.advance), s) := rfl
  unfold target
  rw [run_bind, hconsume]
  dsimp only
  by_cases hword : c.current.kind ≠ .word
  · rw [if_pos hword, if_pos hword]
    rfl
  rw [if_neg hword, if_neg hword, run_bind, gives_session]
  dsimp only
  split <;> rfl

/-- In front of an equals sign a bound name is refused, and nothing behind the sign is looked at. -/
theorem run_execute_of_bound (runner : ScriptRunner) {line : String} {t mark : Token}
    {later : List Token} {s : Session} (hword : t.kind = .word) (hmark : mark.kind = .equal)
    (hbound : s.env.contains t.text = true) :
    (execute runner).run ⟨line, t :: mark :: later⟩ s =
      ((.error ((Fault.binding (.alreadyBound t.text)).atSpan t.span), ⟨line, mark :: later⟩),
        s) := by
  have hnext : Cursor.next ⟨line, t :: mark :: later⟩ = mark :=
    Cursor.next_cons (by rw [hword]; decide) (by rw [hword]; decide)
  rw [run_execute_of_valid runner (by rw [Cursor.current_cons, hword]; decide)
    (by rw [Cursor.current_cons, hword]; decide), hnext, if_pos hmark, assignment, run_bind,
    run_target, Cursor.current_cons, if_neg (not_not.2 hword), if_pos hbound]
  rfl

end Statement

namespace Session

open Reading Statement

variable {s : Session} {n : String} {e : Entity}

/-- All names are ones that can be read as words. -/
def Named (env : Environment Entity) : Prop :=
  ∀ n ∈ env.names, IsName n.toList

theorem named_keep {env : Environment Entity} (p : String × Entity → Bool) (h : Named env) :
    Named (env.keep p) := by
  intro n hn
  obtain ⟨b, hb, rfl⟩ := List.mem_map.1 hn
  exact h b.1 (List.mem_map_of_mem (List.mem_of_mem_filter hb))

theorem named_insert {env env' : Environment Entity} (h : Named env) (hn : IsName n.toList)
    (hi : env.insert n e = .ok env') : Named env' := by
  intro m hm
  rw [Environment.names, Environment.bindings_of_insert hi, List.map_append] at hm
  rcases List.mem_append.1 hm with hold | hnew
  · exact h m hold
  · obtain rfl := List.mem_singleton.1 hnew
    exact hn

/-- **An assignment** binds a word of its line, or nothing. -/
theorem named_assignment (line : String) (s : Session) (hs : s.OfBindings Named) :
    (assignment.run (Cursor.ofLine line) s).2.OfBindings Named := by
  unfold assignment
  rw [run_bind, run_target]
  by_cases hkind : (Cursor.ofLine line).current.kind ≠ .word
  · rw [if_pos hkind]
    exact hs
  rw [if_neg hkind]
  by_cases hbound : s.env.contains (Cursor.ofLine line).current.text = true
  · rw [if_pos hbound]
    exact hs
  rw [if_neg hbound]
  -- What is bound is the first word of the line.
  have hname : IsName (Cursor.ofLine line).current.text.toList := by
    obtain ⟨t, rest, hpending, ht⟩ := exists_cons_of_kind (by decide) (not_not.1 hkind)
    have hcurrent : (Cursor.ofLine line).current = t := by
      rw [Cursor.current, hpending, List.headD_cons]
    rw [hcurrent]
    exact Token.isName_of_mem_scan (hpending ▸ List.mem_cons_self) ht
  have hspares : ∀ s s', Spares s s' → Preserves (OfBindings Named) s s' :=
    fun _ _ h hs => hs.of_env h.env
  refine within_bind (R := Preserves (OfBindings Named)) within_advance (fun _ => ?_) _ s hs
  refine within_bind (within_evaluate.mono fun _ _ h => hspares _ _ h.toSpares) fun e => ?_
  exact within_assigned (fun s s' h => hspares s s' h.toSpares)
    (fun _ _ _ hi hs => named_insert hs hname hi) e

/-- **Every name that is bound in a session that lines lead to** can be read as a word. -/
theorem Reached.isName (hs : s.Reached) (hn : n ∈ s.env.names) : IsName n.toList :=
  hs.ofBindings (lines_ofBindings (fun _ p => named_keep p) named_assignment)
    (fun _ hn => nomatch hn) n hn

/-! ## Where a bound name stands in front of a line -/

section Lines

variable {lead gap tail expr : String}

/-- The line that gives a name free. -/
theorem ofLine_release (hn : IsName n.toList) (hlead : Text.Blank lead) (hgap : Text.Blank gap)
    (hne : gap ≠ "") (htail : Text.Blank tail) :
    ∃ i j, Cursor.ofLine (lead ++ "release" ++ (gap ++ n ++ tail)) =
      ⟨lead ++ "release" ++ (gap ++ n ++ tail), [⟨.word, i, "release"⟩, ⟨.word, j, n⟩]⟩ := by
  have hrelease : IsName "release".toList := by
    refine ⟨by decide, List.all_eq_true.1 (by decide), ?_⟩
    rw [← Token.looksLikeNumber_iff]
    decide
  have hbehind : ∀ c ∈ (gap ++ n ++ tail).toList.head?, isWordPart c = false := by
    rw [String.append_assoc, String.toList_append]
    exact Token.isWordPart_of_blanks hgap fun hnil => absurd (String.toList_eq_nil_iff.1 hnil) hne
  have hend : ∀ c ∈ tail.toList.head?, isWordPart c = false := by
    rw [← List.append_nil tail.toList]
    exact Token.isWordPart_of_blanks htail fun _ _ hc => nomatch hc
  have hscan := hn.scan_eq hgap hend (lead.utf8ByteSize + "release".utf8ByteSize)
  rw [Token.scan_of_blank htail, String.ofList_toList, ← String.toList_append,
    ← String.toList_append, ← String.append_assoc] at hscan
  exact ⟨_, _, by rw [Token.ofLine_of_isName hrelease hlead hbehind, hscan]⟩

/-- The line that would bind a name. -/
theorem ofLine_assignment (expr : String) (hn : IsName n.toList) (hlead : Text.Blank lead)
    (hgap : Text.Blank gap) :
    ∃ i later, Cursor.ofLine (lead ++ n ++ (gap ++ "=" ++ expr)) =
      ⟨lead ++ n ++ (gap ++ "=" ++ expr),
        ⟨.word, lead.utf8ByteSize, n⟩ :: ⟨.equal, i, "="⟩ :: later⟩ := by
  have hequal : (gap ++ "=" ++ expr).toList = gap.toList ++ '=' :: expr.toList := by
    rw [String.append_assoc, String.toList_append, String.toList_append]
    rfl
  have hbehind : ∀ c ∈ (gap ++ "=" ++ expr).toList.head?, isWordPart c = false := by
    rw [hequal]
    refine Token.isWordPart_of_blanks hgap fun _ c hc => ?_
    obtain rfl := Option.some.inj hc
    rfl
  have hsign : (TokenKind.equal, '=') ∈ Token.signs := by simp [Token.signs]
  rw [Token.ofLine_of_isName hn hlead hbehind, hequal, Token.scan_sign hgap hsign]
  exact ⟨_, _, rfl⟩

/-- **A line `release` with a bound name** takes its binding away. -/
theorem runLine_release_of_bound (hs : s.Reached) (hbound : n ∈ s.env.names)
    (hlead : Text.Blank lead) (hgap : Text.Blank gap) (hne : gap ≠ "") (htail : Text.Blank tail) :
    (s.runLine (lead ++ "release" ++ (gap ++ n ++ tail))).2.env.bindings =
        s.env.bindings.filter (fun b => b.1 ≠ n) ∧
      ((s.options.verbose = true → s.out.broken = none) →
        (s.runLine (lead ++ "release" ++ (gap ++ n ++ tail))).1 = .good) := by
  obtain ⟨i, j, hline⟩ := ofLine_release (hs.isName hbound) hlead hgap hne htail
  generalize lead ++ "release" ++ (gap ++ n ++ tail) = line at hline ⊢
  have hcommand : command? (Cursor.ofLine line) = some .release := by
    have hrelease : Text.choose "release" Command.name Command.all = .one .release := by decide
    rw [hline]
    simp [command?, Cursor.current, Cursor.next, Cursor.hasMore, hrelease]
  have hargument : argumentTokens line = [⟨.word, j, n⟩] := by
    rw [argumentTokens, hline]
    rfl
  have hreleasable : Releasable s.env (argumentTokens line) := by
    rw [hargument]
    exact List.forall_mem_singleton.2 (.inr ⟨rfl, Environment.contains_iff.2 hbound⟩)
  obtain ⟨henv, hgood⟩ := runLine_release hcommand (by rw [hargument]; simp) hreleasable
  refine ⟨?_, hgood⟩
  rw [henv, hargument, Environment.keep]
  simp [listedNames]

/-- **A line that would bind a bound name again** comes to its failure in front of the equals sign.
-/
theorem run_execute_of_bound_name (expr : String) (hn : IsName n.toList)
    (hbound : n ∈ s.env.names) (hlead : Text.Blank lead) (hgap : Text.Blank gap) :
    ∃ c, c.current.kind = .equal ∧
      (Statement.execute runScript).run
          (Cursor.ofLine (lead ++ n ++ (gap ++ "=" ++ expr))) s =
        ((.error ((Fault.binding (.alreadyBound n)).atSpan
          ⟨lead.utf8ByteSize, lead.utf8ByteSize + n.utf8ByteSize⟩), c), s) := by
  obtain ⟨i, later, hline⟩ := ofLine_assignment expr hn hlead hgap
  generalize lead ++ n ++ (gap ++ "=" ++ expr) = line at hline ⊢
  have hcontains : s.env.contains n = true := Environment.contains_iff.2 hbound
  have hrun : (Statement.execute runScript).run
      ⟨line, ⟨.word, lead.utf8ByteSize, n⟩ :: ⟨.equal, i, "="⟩ :: later⟩ s = _ :=
    run_execute_of_bound runScript rfl rfl hcontains
  rw [Token.span, Token.stop, Text.byteLength_toList] at hrun
  rw [hline]
  exact ⟨_, rfl, hrun⟩

end Lines

/-- **Every name ever bound stays within reach**, however it is spelt. Read by itself it is one
word; an expression that it stands in front of denotes what it is bound to; a line `release` with it
takes just its binding away; and a line that would bind it again is refused in front of the equals
sign, with nothing behind that read and the session as it was. -/
theorem bound_names_stay_within_reach (hs : s.Reached) (hb : (n, e) ∈ s.env.bindings) :
    Token.tokenize n = [⟨.word, 0, n⟩, ⟨.finish, n.utf8ByteSize, ""⟩] ∧
    (∀ lead rest, Text.Blank lead → (∀ c ∈ rest.toList.head?, isWordPart c = false) →
      ∃ c, s.evaluate (lead ++ n ++ rest) = ((.ok e, c), s)) ∧
    (∀ lead gap tail, Text.Blank lead → Text.Blank gap → gap ≠ "" → Text.Blank tail →
      let line := lead ++ "release" ++ (gap ++ n ++ tail)
      (s.runLine line).2.env.bindings = s.env.bindings.filter (fun b => b.1 ≠ n) ∧
        ((s.options.verbose = true → s.out.broken = none) → (s.runLine line).1 = .good)) ∧
    ∀ lead gap expr, Text.Blank lead → Text.Blank gap →
      let line := lead ++ n ++ (gap ++ "=" ++ expr)
      let f := (Fault.binding (.alreadyBound n)).atSpan
        ⟨lead.utf8ByteSize, lead.utf8ByteSize + n.utf8ByteSize⟩
      (∃ c, c.current.kind = .equal ∧
        (Statement.execute runScript).run (Cursor.ofLine line) s = ((.error f, c), s)) ∧
      s.execute line = (.error f, s) ∧
      s.runLine line = (.fail, (s.note (.ran s.depth line)).report line f) := by
  have hbound : n ∈ s.env.names := List.mem_map_of_mem hb
  have hname : IsName n.toList := hs.isName hbound
  have hlookup : s.env.lookup n = some e := (Environment.lookup_eq_some_iff hs.distinct).2 hb
  refine ⟨?_, fun lead rest hlead hrest => ?_,
    fun lead gap tail hlead hgap hne htail =>
      runLine_release_of_bound hs hbound hlead hgap hne htail,
    fun lead gap expr hlead hgap => ?_⟩
  · rw [Token.tokenize_of_isName hname, Text.byteLength_toList]
    rfl
  · rw [Session.evaluate, Token.ofLine_of_isName hname hlead hrest]
    exact ⟨_, run_evaluate_bound rfl hlookup⟩
  · intro line f
    -- A line is noted in the journal before it is executed, so this is needed of two sessions.
    have hexecute : ∀ t : Session, n ∈ t.env.names → t.temporaries = [] →
        t.execute line = (.error f, t) := by
      intro t ht htemporaries
      obtain ⟨c, -, hrun⟩ := run_execute_of_bound_name expr hname ht hlead hgap
      rw [Session.execute, executeWith, hrun]
      exact congrArg (Prod.mk _) (dropTemporaries_of_nil htemporaries)
    refine ⟨run_execute_of_bound_name expr hname hbound hlead hgap,
      hexecute s hbound hs.idle.temporaries, ?_⟩
    have hnoted : (s.note (.ran s.depth line)).execute line = (.error f, _) :=
      hexecute (s.note (.ran s.depth line)) hbound hs.idle.temporaries
    unfold Session.execute at hnoted
    rw [Session.runLine, runLineWith, hnoted]

/-- The word of a constructor, the name of a command and what looks like a path are names like any
other. -/
theorem spelling_does_not_matter :
    let s := after ["buffer=int(7)", "release = buffer", "./it's= release"]
    s.env.names = ["buffer", "release", "./it's"] ∧
    ∀ n ∈ s.env.names, ∃ e, s.env.lookup n = some e ∧
      (∃ c, s.evaluate (n ++ " ") = ((.ok e, c), s)) ∧
      (s.runLine ("release " ++ n)).2.env.names = s.env.names.filter (· ≠ n) ∧
      (s.runLine (n ++ "=buffer(16)")).1 = .fail := by
  intro s
  have hs : s.Reached := reached_after _
  refine ⟨by decide +kernel, fun n hn => ?_⟩
  obtain ⟨⟨n, e⟩, hb, rfl⟩ := List.mem_map.1 hn
  obtain ⟨-, hevaluate, hrelease, hassign⟩ := bound_names_stay_within_reach hs hb
  refine ⟨e, (Environment.lookup_eq_some_iff hs.distinct).2 hb, ?_, ?_, ?_⟩
  · have hend : ∀ c ∈ " ".toList.head?, isWordPart c = false := by
      intro c hc
      obtain rfl := Option.some.inj hc
      decide
    exact hevaluate "" " " (by decide) hend
  · have hline : "" ++ "release" ++ (" " ++ n ++ "") = "release " ++ n := by
      rw [String.append_empty, ← String.append_assoc,
        show "" ++ "release" ++ " " = "release " by decide]
    have hbindings := (hrelease "" " " "" (by decide) (by decide) (by decide) (by decide)).1
    rw [hline] at hbindings
    rw [Environment.names, hbindings, Environment.names, List.filter_map]
    rfl
  · have hline : "" ++ n ++ ("" ++ "=" ++ "buffer(16)") = n ++ "=buffer(16)" := by
      rw [String.empty_append, show "" ++ "=" ++ "buffer(16)" = "=buffer(16)" by decide]
    have hfail := (hassign "" "" "buffer(16)" (by decide) (by decide)).2.2
    rw [hline] at hfail
    exact congrArg Prod.fst hfail

end Session

end DriverBench
