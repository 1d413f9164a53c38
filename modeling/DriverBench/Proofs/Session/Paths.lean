import DriverBench.Proofs.Reading.Gives
import DriverBench.Proofs.Session.Unread
import DriverBench.Proofs.Text.Trim
import DriverBench.Proofs.Token.Compose
/-!
# The path at the end of a line

A path that is no quoted text is the rest of the line, whatever characters stand in it: it is cut
out of the line and not put together from tokens. Which tokens the cursor is moved over is another
matter. It stops at the first character that begins no token, and at a quote that is never closed,
so that there seems to be something behind the path. `save` and `script` warn of that, and use the
whole path nonetheless: what they say is ignored is the end of the path that they use
(`path_of_line`).
-/

namespace DriverBench

open Device Simulator

/-! ## Where a cursor stands -/

namespace Token

/-- A character that begins no token and stands in none but quoted texts. -/
structure IsStray (c : Char) : Prop where
  not_blank : Text.isBlank c = false
  no_sign : signKind? c = none
  no_quote : c ≠ '"'
  no_part : isWordPart c = false

/-- Of what begins with no quote a token is invalid just where a stray character stands in it. -/
theorem kind_lexeme_eq_invalid_iff {c : Char} {rest : List Char} (hb : Text.isBlank c = false)
    (hq : c ≠ '"') :
    (lexeme c rest).kind = .invalid ↔ ∃ d ∈ (lexeme c rest).text, IsStray d := by
  unfold lexeme
  cases hsign : signKind? c with
  | some kind =>
    have hkind : kind ≠ .invalid := by
      rintro rfl
      unfold signKind? at hsign
      split at hsign <;> cases hsign
    refine ⟨fun h => absurd h hkind, fun ⟨d, hd, hstray⟩ => ?_⟩
    obtain rfl := List.mem_singleton.1 hd
    cases hsign.symm.trans hstray.no_sign
  | none =>
    dsimp only
    rw [if_neg hq]
    by_cases hword : isWordPart c = true
    · rw [if_pos hword]
      refine ⟨fun h => ?_, fun ⟨d, hd, hstray⟩ => ?_⟩
      · dsimp only [wordKind] at h
        split at h <;> cases h
      · have hpart : isWordPart d = true := by
          rcases List.mem_cons.1 hd with rfl | hd
          · exact hword
          · exact List.mem_takeWhile_imp hd
        cases hpart.symm.trans hstray.no_part
    · rw [if_neg hword]
      exact ⟨fun _ => ⟨c, List.mem_singleton.2 rfl, hb, hsign, hq, by simpa using hword⟩,
        fun _ => rfl⟩

/-- **Which quote-free texts have invalid tokens**: those in which a stray character stands. -/
theorem exists_invalid_iff {start : Nat} {cs : List Char} (hq : '"' ∉ cs) :
    (∃ t ∈ scan start cs, t.kind = .invalid) ↔ ∃ c ∈ cs, IsStray c := by
  have hblanks : ∀ cs : List Char, ∀ c ∈ cs.takeWhile Text.isBlank, ¬ IsStray c :=
    fun cs c hc h => by
      have := List.mem_takeWhile_imp hc
      rw [h.not_blank] at this
      cases this
  fun_induction scan start cs with
  | case1 start cs hdrop =>
    have hall : cs = cs.takeWhile Text.isBlank := by
      conv_lhs => rw [← cs.takeWhile_append_dropWhile (p := Text.isBlank), hdrop, List.append_nil]
    constructor
    · rintro ⟨t, ht, -⟩
      exact absurd ht List.not_mem_nil
    · rintro ⟨c, hc, hstray⟩
      exact absurd hstray (hblanks cs c (hall ▸ hc))
  | case2 start cs c rest hdrop =>
    rename_i begin l ih
    have hsplit : cs = cs.takeWhile Text.isBlank ++ (l.text ++ l.rest) := by
      rw [Lexeme.text_append_rest, ← hdrop, List.takeWhile_append_dropWhile]
    have hquotes : '"' ∉ l.text ++ l.rest := fun h => hq (by
      rw [hsplit]
      exact List.mem_append_right _ h)
    have hc : Text.isBlank c = false := Text.isBlank_of_dropWhile hdrop
    have hne : c ≠ '"' := by
      rintro rfl
      exact hquotes (by rw [Lexeme.text_append_rest]; exact List.mem_cons_self)
    have hfirst : l.kind = .invalid ↔ ∃ d ∈ l.text, IsStray d :=
      kind_lexeme_eq_invalid_iff hc hne
    have hmem : ∀ d, d ∈ cs ↔
        d ∈ cs.takeWhile Text.isBlank ∨ d ∈ l.text ∨ d ∈ l.rest := fun d => by
      conv_lhs => rw [hsplit, List.mem_append, List.mem_append]
    have hrest := ih (fun h => hquotes (List.mem_append_right _ h))
    constructor
    · rintro ⟨t, ht, hkind⟩
      rcases List.mem_cons.1 ht with rfl | ht
      · obtain ⟨d, hd, hstray⟩ := hfirst.1 hkind
        exact ⟨d, (hmem d).2 (.inr (.inl hd)), hstray⟩
      · obtain ⟨d, hd, hstray⟩ := hrest.1 ⟨t, ht, hkind⟩
        exact ⟨d, (hmem d).2 (.inr (.inr hd)), hstray⟩
    · rintro ⟨d, hd, hstray⟩
      rcases (hmem d).1 hd with hd | hd | hd
      · exact absurd hstray (hblanks cs d hd)
      · exact ⟨_, List.mem_cons_self, hfirst.2 ⟨d, hd, hstray⟩⟩
      · obtain ⟨t, ht, hkind⟩ := hrest.2 ⟨d, hd, hstray⟩
        exact ⟨t, List.mem_cons_of_mem _ ht, hkind⟩

end Token

namespace Cursor

variable {line : String} {before rest : List Char} {c c' : Cursor}

/-- A cursor stands in front of a rest of the line: the tokens of that are ahead. -/
structure Stands (before rest : List Char) (c : Cursor) : Prop where
  line : c.line.toList = before ++ rest
  pending : c.pending = Token.scan (Text.byteLength before) rest

theorem stands_ofLine (line : String) : (ofLine line).Stands [] line.toList := ⟨rfl, rfl⟩

/-- Behind some tokens a cursor stands in front of a later rest. -/
theorem Stands.of_leads (h : c.Stands before rest) (hl : c.Leads c') :
    ∃ skipped left, rest = skipped ++ left ∧ c'.Stands (before ++ skipped) left := by
  obtain ⟨skipped, left, rfl, hpending⟩ := Token.exists_of_suffix_scan (h.pending ▸ hl.suffix)
  refine ⟨skipped, left, rfl, ?_, ?_⟩
  · rw [hl.line_eq, h.line, List.append_assoc]
  · rw [hpending, Text.byteLength_append]

/-- Where a token is ahead, it begins behind the blanks of the rest. -/
theorem Stands.start (h : c.Stands before rest) (hne : c.pending ≠ []) :
    c.current.start = Text.byteLength (before ++ rest.takeWhile Text.isBlank) := by
  have hscan := h.pending
  cases hdrop : rest.dropWhile Text.isBlank with
  | nil =>
    rw [Token.scan_of_nil hdrop] at hscan
    exact absurd hscan hne
  | cons first more =>
    rw [Token.scan_of_cons hdrop] at hscan
    rw [current, hscan, Text.byteLength_append before]
    rfl

/-- What follows from the current token on is the rest behind its blanks. -/
theorem Stands.dropBytes (h : c.Stands before rest) :
    Text.dropBytes c.current.start c.line.toList = rest.dropWhile Text.isBlank := by
  cases hpending : c.pending with
  | nil =>
    have hdrop : rest.dropWhile Text.isBlank = [] := by
      cases hdrop : rest.dropWhile Text.isBlank with
      | nil => rfl
      | cons first more =>
        have hscan := h.pending
        rw [Token.scan_of_cons hdrop, hpending] at hscan
        cases hscan
    have hstart : c.current.start = Text.byteLength c.line.toList := by
      rw [current, hpending]
      rfl
    have hall := Text.dropBytes_byteLength_append c.line.toList []
    rwa [List.append_nil, ← hstart, ← hdrop] at hall
  | cons t ts =>
    have hline : c.line.toList =
        before ++ rest.takeWhile Text.isBlank ++ rest.dropWhile Text.isBlank := by
      rw [h.line, List.append_assoc, List.takeWhile_append_dropWhile]
    rw [hline, h.start (by rw [hpending]; exact List.cons_ne_nil _ _),
      Text.dropBytes_byteLength_append]

/-- **What remains** of a line is the rest of it, trimmed. -/
theorem Stands.remaining (h : c.Stands before rest) :
    c.remaining.toList = Text.trimWhere Text.isBlank rest := by
  rw [Cursor.remaining, Text.trimBlank, String.toList_ofList, String.toList_ofList, h.dropBytes,
    Text.trimWhere_dropWhile]

/-- Where a token is ahead, something remains. -/
theorem Stands.remaining_ne_nil (h : c.Stands before rest) (hne : c.pending ≠ []) :
    Text.trimWhere Text.isBlank rest ≠ [] := by
  intro hnil
  obtain ⟨left, right, heq, hleft, hright⟩ := Text.exists_of_trimWhere Text.isBlank rest
  rw [hnil, List.nil_append] at heq
  have hdrop : rest.dropWhile Text.isBlank = [] := List.dropWhile_eq_nil_iff.2 fun b hb => by
    rw [heq, List.mem_append] at hb
    exact hb.elim (hleft b) (hright b)
  exact hne (h.pending.trans (Token.scan_of_nil hdrop _))

/-- **The rest of the line stands in it as it is**, from the current token on and with nothing but
blanks behind it. -/
theorem Stands.exists_remaining (h : c.Stands before rest) (hne : c.pending ≠ []) :
    ∃ front blanks, c.line.toList = front ++ (c.remaining.toList ++ blanks) ∧
      Text.byteLength front = c.current.start ∧ ∀ b ∈ blanks, Text.isBlank b = true := by
  obtain ⟨right, hdrop, hright⟩ := Text.exists_dropWhile_eq Text.isBlank rest
  refine ⟨before ++ rest.takeWhile Text.isBlank, right, ?_, (h.start hne).symm, hright⟩
  rw [h.remaining, List.append_assoc, ← hdrop, List.takeWhile_append_dropWhile, h.line]

/-- The cursor behind all valid tokens. -/
def behindValid (c : Cursor) : Cursor :=
  { c with pending := c.pending.dropWhile (·.kind ≠ .invalid) }

theorem leads_behindValid (c : Cursor) : c.Leads c.behindValid :=
  ⟨rfl, List.dropWhile_suffix _⟩

/-- Behind the valid tokens is the end of the line, or an invalid token. -/
theorem current_behindValid (hfinish : ∀ t ∈ c.pending, t.kind ≠ .finish) :
    (c.behindValid.current.kind ≠ .finish ↔ ∃ t ∈ c.pending, t.kind = .invalid) ∧
      (c.behindValid.current.kind ≠ .finish ↔ c.behindValid.pending ≠ []) := by
  have hpending : c.behindValid.pending = c.pending.dropWhile (·.kind ≠ .invalid) := rfl
  have hnil : c.behindValid.pending = [] ↔ ∀ t ∈ c.pending, t.kind ≠ .invalid := by
    rw [hpending, List.dropWhile_eq_nil_iff]
    simp
  have hcurrent : c.behindValid.current.kind ≠ .finish ↔ c.behindValid.pending ≠ [] := by
    cases hbehind : c.behindValid.pending with
    | nil =>
      have hend : c.behindValid.current.kind = .finish := by
        rw [current, hbehind]
        rfl
      exact ⟨fun h => absurd hend h, fun h => absurd rfl h⟩
    | cons t ts =>
      have ht : t ∈ c.pending :=
        (leads_behindValid c).suffix.subset (by rw [hbehind]; exact List.mem_cons_self)
      have hsame : c.behindValid.current = t := by rw [current, hbehind, List.headD_cons]
      exact ⟨fun _ => List.cons_ne_nil _ _, fun _ => hsame ▸ hfinish t ht⟩
  refine ⟨hcurrent.trans ?_, hcurrent⟩
  rw [Ne, hnil]
  simp

end Cursor

/-! ## The commands with a path -/

namespace Session

/-- The session behind a look for something left of the line: if there seems to be something, a
warning is added on the error stream. -/
def warned (s : Session) (command : Command) (c : Cursor) : Session :=
  if c.current.kind = .finish then s
  else { s with err := { s.err with text := s.err.text ++ command.warning c.remaining } }

end Session

namespace Reading

variable {c : Cursor} {s : Session}

/-- **A path that is no quoted text** is what remains of the line. -/
theorem gives_pathArgument (hkind : c.current.kind ∉ [TokenKind.quoted, .finish, .invalid])
    (s : Session) :
    Gives pathArgument c s (c.remaining, c.remainingSpan) c.behindValid s := by
  simp only [List.mem_cons, List.not_mem_nil, or_false, not_or] at hkind
  obtain ⟨hquoted, hfinish, hinvalid⟩ := hkind
  have hcurrent : current.run c s = ((.ok c.current, c), s) := rfl
  unfold Gives pathArgument
  rw [run_bind, hcurrent]
  dsimp only
  split
  · exact absurd ‹_› hquoted
  · exact absurd ‹_› hfinish
  · exact absurd ‹_› hinvalid
  · rfl

/-- What seems to be left of the line is warned of. -/
theorem gives_warnTrailing (command : Command) (c : Cursor) (herr : s.err.broken = none) :
    Gives (warnTrailing command) c s () c (s.warned command c) := by
  have hwrite : s.err.write (command.warning c.remaining) =
      .ok { s.err with text := s.err.text ++ command.warning c.remaining } := by
    simp [Sink.write, herr]
  rw [Gives, run_warnTrailing, Session.warned, hwrite]
  split <;> rfl

end Reading

namespace Statement

open Reading

/-- What `script` does with its path. -/
def scriptAt (runner : ScriptRunner) (path : String) (span : Span) : Reading Outcome := do
  match (← session).files.readText path with
  | .error e => raise (.file e) span
  | .ok source => Action.atSpan (runner source) span

/-- What `save` does with its object and its path. -/
def saveAt (object : Span) (e : Entity) (path : String) (span : Span) : Reading Outcome := do
  let bytes ← Action.atSpan (fileBytes path e.object) object
  Action.atSpan (writeFile path bytes) span
  Action.note s!"{bytes.length} バイトを '{path}' に保存しました"
  return .good

variable {c c' : Cursor} {s s' : Session}

theorem run_session_bind {α : Type} (f : Session → Reading α) (c : Cursor) (s : Session) :
    (session >>= f).run c s = (f s).run c s := rfl

/-- **A script** whose name is no quoted text is read from the file of the rest of the line, behind
a warning if the cursor stops in the name. -/
theorem run_script_of_rest (runner : ScriptRunner)
    (hkind : c.current.kind ∉ [TokenKind.quoted, .finish, .invalid]) (herr : s.err.broken = none) :
    (script runner).run c s =
      (scriptAt runner c.remaining c.remainingSpan).run c.behindValid
        (s.warned .script c.behindValid) := by
  unfold script
  rw [run_bind, gives_pathArgument hkind s]
  dsimp only
  rw [run_bind, gives_warnTrailing .script _ herr]
  dsimp only
  unfold scriptAt
  cases hread : (s.warned .script c.behindValid).files.readText c.remaining <;>
    simp only [run_session_bind, hread]

/-- **An object** is saved under the rest of the line in the same way. -/
theorem run_save_of_rest {e : Entity} (hobject : Gives evaluateKept c' s e c s')
    (hkind : c.current.kind ∉ [TokenKind.quoted, .finish, .invalid]) (herr : s'.err.broken = none) :
    save.run c' s =
      (saveAt c'.current.span e c.remaining c.remainingSpan).run c.behindValid
        (s'.warned .save c.behindValid) := by
  have hcurrent : current.run c' s = ((.ok c'.current, c'), s) := rfl
  unfold save
  rw [run_bind, hcurrent]
  dsimp only
  rw [run_bind, hobject]
  dsimp only
  rw [run_bind, gives_pathArgument hkind s']
  dsimp only
  rw [run_bind, gives_warnTrailing .save _ herr]
  rfl

end Statement

namespace Session

open Statement Reading

/-- What a line comes to that a reading brings to its end. -/
def concluded (s : Session) (r : Reading Outcome) (c : Cursor) :
    Except Failure Outcome × Session :=
  ((r.result c s).1, (r.result c s).2.dropTemporaries)

/-- **The path at the end of a line.** Where a cursor stands before a valid token that is no quoted
text, the path there is the rest of the line from that token on, with the blanks at its end taken
off. The cursor is left at the end of the line unless an invalid token is ahead, which in a path
without quotes means that a character stands in it that begins no token; then it is left there.
`script` and `save` read and write the file of the whole path in either case. In the second case
they say first that what follows the cursor is ignored, which is the end of the path that they
use. -/
theorem path_of_line {line : String} {c : Cursor} (hlead : (Cursor.ofLine line).Leads c)
    (hkind : c.current.kind ∉ [TokenKind.quoted, .finish, .invalid]) :
    (∃ front blanks, line.toList = front ++ (c.remaining.toList ++ blanks) ∧
      Text.byteLength front = c.current.start ∧ (∀ b ∈ blanks, Text.isBlank b = true) ∧
      ∀ b ∈ c.remaining.toList.getLast?, Text.isBlank b = false) ∧
    (c.behindValid.current.kind ≠ .finish ↔ ∃ t ∈ c.pending, t.kind = .invalid) ∧
    ('"' ∉ c.remaining.toList →
      ((∃ t ∈ c.pending, t.kind = .invalid) ↔ ∃ d ∈ c.remaining.toList, Token.IsStray d)) ∧
    (c.behindValid.current.kind ≠ .finish → c.behindValid.remaining ≠ "" ∧
      ∃ used, c.remaining.toList = used ++ c.behindValid.remaining.toList) ∧
    (∀ s : Session, s.err.broken = none → command? (Cursor.ofLine line) = some .script →
      c = (Cursor.ofLine line).advance →
      s.execute line = (s.warned .script c.behindValid).concluded
        (scriptAt runScript c.remaining c.remainingSpan) c.behindValid) ∧
    ∀ (s s' : Session) (e : Entity), command? (Cursor.ofLine line) = some .save →
      Gives evaluateKept (Cursor.ofLine line).advance s e c s' → s'.err.broken = none →
      s.execute line = (s'.warned .save c.behindValid).concluded
        (saveAt (Cursor.ofLine line).advance.current.span e c.remaining c.remainingSpan)
        c.behindValid := by
  have hfinish := hlead.kind_ne_finish
  obtain ⟨skipped, rest, -, hstands⟩ := (Cursor.stands_ofLine line).of_leads hlead
  obtain ⟨skipped', rest', hrest, hbehind⟩ := hstands.of_leads c.leads_behindValid
  have hne : c.pending ≠ [] := fun hnil => hkind (by
    have hend : c.current.kind = .finish := by
      rw [Cursor.current, hnil]
      rfl
    simp [hend])
  obtain ⟨hstop, hpending⟩ := Cursor.current_behindValid hfinish
  refine ⟨?_, hstop, fun hq => ?_, fun hbefore => ?_, fun s herr hname hc => ?_,
    fun s s' e hname hobject herr => ?_⟩
  · obtain ⟨front, blanks, hline, hstart, hblanks⟩ := hstands.exists_remaining hne
    rw [hlead.line_eq] at hline
    refine ⟨front, blanks, hline, hstart, hblanks, ?_⟩
    rw [hstands.remaining]
    exact Text.getLast?_trimWhere
  · rw [hstands.remaining] at hq ⊢
    have hquote : '"' ∉ rest := fun h => hq ((Text.mem_trimWhere_iff rfl).2 h)
    rw [hstands.pending, Token.exists_invalid_iff hquote]
    exact exists_congr fun d =>
      and_congr_left fun hstray => (Text.mem_trimWhere_iff hstray.not_blank).symm
  · have hremains := hbehind.remaining_ne_nil (hpending.1 hbefore)
    refine ⟨fun hempty => hremains ?_, ?_⟩
    · rw [← hbehind.remaining, hempty]
      rfl
    · rw [hstands.remaining, hbehind.remaining, hrest]
      exact Text.exists_trimWhere_of_append skipped' hremains
  · subst hc
    rw [execute_of_command hname]
    unfold concluded result
    rw [perform, run_script_of_rest runScript hkind herr]
  · rw [execute_of_command hname]
    unfold concluded result
    rw [perform, run_save_of_rest hobject hkind herr]

/-- The script of a name with a semicolon is looked for, and it is said that the second half of the
name is ignored. -/
theorem warned_of_own_path :
    ∃ c : Cursor, (after []).execute "script a;b" =
        ((after []).warned .script c).concluded (scriptAt runScript "a;b" ⟨7, 10⟩) c ∧
      ((after []).warned .script c).err.text =
        "警告: 'script' の後の ';b' は無視します\n" := by
  have hpath := path_of_line (Cursor.leads_advance (Cursor.ofLine "script a;b")) (by decide +kernel)
  obtain ⟨-, -, -, -, hscript, -⟩ := hpath
  have hexecute := hscript (after []) (by decide +kernel) (by decide +kernel) rfl
  have hremaining : (Cursor.ofLine "script a;b").advance.remaining = "a;b" := by decide +kernel
  have hspan : (Cursor.ofLine "script a;b").advance.remainingSpan = ⟨7, 10⟩ := by decide +kernel
  rw [hremaining, hspan] at hexecute
  exact ⟨_, hexecute, by decide +kernel⟩

end Session

end DriverBench
