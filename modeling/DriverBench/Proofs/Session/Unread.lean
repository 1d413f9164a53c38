import DriverBench.Proofs.Session.Switch
/-!
# An argument that is no token

Some commands can do without an argument. What tells them that they have none is that no valid token
is ahead, and that is so at the end of the line as well as before an open quote or a character that
begins no token. So they take such a line for one without an argument: they do what the name of the
command alone makes them do, but for a warning that two of them give, and never say that the line is
at fault (`execute_of_invalid_argument`). With `load` this means a new driver.
-/

namespace DriverBench

open Device Simulator

/-! ## What does not depend on the line -/

/-- No failure of an action is that of a line which cannot be divided. -/
def Action.Blameless {α : Type} (a : Action α) : Prop :=
  ∀ s f, (a.run.run s).1 = .error f → f.fault.kind ≠ .lex

namespace Action

theorem blameless_print (text : String) : Blameless (print text) := by
  intro s f hf
  unfold print at hf
  rw [run_get_bind] at hf
  cases hw : s.out.write text with
  | ok out =>
    rw [hw] at hf
    cases hf
  | error why =>
    rw [hw] at hf
    cases hf
    simp [Fault.kind]

theorem blameless_note (text : String) : Blameless (note text) := by
  intro s f hf
  unfold note at hf
  rw [run_get_bind] at hf
  by_cases hv : s.options.verbose = true
  · rw [if_pos hv] at hf
    exact blameless_print _ s f hf
  · rw [if_neg hv] at hf
    cases hf

theorem blameless_activeDriver : Blameless activeDriver := by
  intro s f hf
  rw [run_activeDriver] at hf
  cases hd : s.driver? with
  | some d =>
    rw [hd] at hf
    cases hf
  | none =>
    rw [hd] at hf
    cases hf
    simp [Fault.kind]

end Action

namespace Reading

variable {α β : Type}

/-- What a reading comes to, wherever it leaves the cursor. -/
def result (r : Reading α) (c : Cursor) (s : Session) : Except Failure α × Session :=
  ((r.run c s).1.1, (r.run c s).2)

/-- A reading that does not read: it comes to the same wherever the cursor stands, and so does not
find the line at fault. -/
structure Unread (r : Reading α) : Prop where
  same : ∀ c c' s, r.result c s = r.result c' s
  blameless : ∀ c s f, (r.run c s).1.1 = .error f → f.fault.kind ≠ .lex

theorem unread_pure (a : α) : Unread (pure a) :=
  ⟨fun _ _ _ => rfl, fun _ _ _ hf => by cases hf⟩

theorem unread_session : Unread session :=
  ⟨fun _ _ _ => rfl, fun _ _ _ hf => by cases hf⟩

theorem unread_change (f : Session → Session) : Unread (change f) :=
  ⟨fun _ _ _ => rfl, fun _ _ _ hf => by cases hf⟩

theorem unread_liftM {a : Action α} (h : Action.Blameless a) : Unread (liftM a : Reading α) :=
  ⟨fun _ _ _ => rfl, fun _ s f hf => h s f hf⟩

theorem unread_bind {r : Reading α} {f : α → Reading β} (h : Unread r) (hf : ∀ a, Unread (f a)) :
    Unread (r >>= f) := by
  constructor
  · intro c c' s
    have hsame := h.same c c' s
    unfold result at hsame ⊢
    rw [run_bind, run_bind]
    rcases hr : r.run c s with ⟨⟨e | a, c₁⟩, s₁⟩
    · rcases hr' : r.run c' s with ⟨⟨e' | a', c₂⟩, s₂⟩ <;> rw [hr, hr'] at hsame <;> cases hsame
      rfl
    · rcases hr' : r.run c' s with ⟨⟨e' | a', c₂⟩, s₂⟩ <;> rw [hr, hr'] at hsame <;> cases hsame
      exact (hf a).same c₁ c₂ s₁
  · intro c s e he
    rw [run_bind] at he
    rcases hr : r.run c s with ⟨⟨e' | a, c₁⟩, s₁⟩
    · rw [hr] at he
      obtain rfl := Except.error.inj he
      exact h.blameless c s e' (by rw [hr])
    · rw [hr] at he
      exact (hf a).blameless c₁ s₁ e he

theorem unread_noteCleared (count : Nat) : Unread (noteCleared count) := by
  unfold noteCleared
  split
  · exact unread_liftM (Action.blameless_note _)
  · exact unread_pure _

end Reading

/-- There is nothing more to read where no valid token is ahead. -/
theorem Cursor.hasMore_of_invalid {c : Cursor} (hc : c.current.kind = .invalid) :
    c.hasMore = false := by
  rw [hasMore, hc]
  rfl

namespace Statement

open Reading

/-! ## Commands without an argument -/

/-- The commands whose first argument can be missing. -/
def optionalArgument : List Command := [.load, .select, .info, .set, .help]

/-- Whether such a command looks for something left of the line when it has no argument. -/
def warnsBare : Command → Bool
  | .load | .info => true
  | _ => false

/-- What such a command does without an argument. -/
def bare : Command → Reading Outcome
  | .load => do
    let (cleared, s) := (← session).setDriver
    change fun _ => s
    Action.note (loadedText defaultLibrary)
    noteCleared cleared
    return .good
  | .select => showSelection
  | .info => do
    let selection := (← Action.activeDriver).selection
    Action.print (String.join (InfoTopic.all.map (InfoTopic.text selection)))
    return .good
  | .set => showSettings
  | .help => do
    Action.print helpOverview
    return .good
  | _ => return .good

/-- Without a valid token ahead these commands read nothing. -/
theorem run_perform_bare (runner : ScriptRunner) {command : Command}
    (hcommand : command ∈ optionalArgument) {c : Cursor} (hc : c.hasMore = false) (s : Session) :
    (perform runner command).run c s =
      (if warnsBare command then warnTrailing command >>= fun _ => bare command
        else bare command).run c s := by
  have hlook : hasMore.run c s = ((.ok false, c), s) := by
    rw [← hc]
    rfl
  simp only [optionalArgument, List.mem_cons, List.not_mem_nil, or_false] at hcommand
  rcases hcommand with rfl | rfl | rfl | rfl | rfl
  · have hname : libraryArgument.run c s = ((.ok (defaultLibrary, none), c), s) := by
      unfold libraryArgument
      rw [run_bind, hlook]
      rfl
    change load.run c s = (warnTrailing .load >>= fun _ => bare .load).run c s
    unfold load
    rw [run_bind, hname]
    rfl
  · change select.run c s = showSelection.run c s
    unfold select
    rw [run_bind, hlook]
    rfl
  · have htopics : infoTopics.run c s = ((.ok InfoTopic.all, c), s) := by
      unfold infoTopics
      rw [run_bind, hlook]
      rfl
    change info.run c s = (warnTrailing .info >>= fun _ => bare .info).run c s
    unfold info
    rw [run_bind, htopics]
    rfl
  · change settings.run c s = showSettings.run c s
    unfold settings
    rw [run_bind, hlook]
    rfl
  · change help.run c s = (bare .help).run c s
    unfold help
    rw [run_bind, hlook]
    rfl

theorem unread_bare (command : Command) : Unread (bare command) := by
  have hsay : ∀ text, Unread (liftM (Action.say text)) := fun _ =>
    unread_liftM (Action.blameless_print _)
  have hprint : ∀ text, Unread (liftM (Action.print text)) := fun _ =>
    unread_liftM (Action.blameless_print _)
  have hdriver : Unread (liftM Action.activeDriver) := unread_liftM Action.blameless_activeDriver
  cases command with
  | load =>
    refine unread_bind unread_session fun s => unread_bind (unread_change _) fun _ => ?_
    refine unread_bind (unread_liftM (Action.blameless_note _)) fun _ => ?_
    exact unread_bind (unread_noteCleared _) fun _ => unread_pure _
  | select =>
    refine unread_bind hdriver fun d => unread_bind (hsay _) fun _ => ?_
    exact unread_bind (hsay _) fun _ => unread_pure _
  | info => exact unread_bind hdriver fun d => unread_bind (hprint _) fun _ => unread_pure _
  | set => exact unread_bind unread_session fun s => unread_bind (hprint _) fun _ => unread_pure _
  | help => exact unread_bind (hprint _) fun _ => unread_pure _
  | _ => exact unread_pure _

/-- All but a new driver is a matter of the streams. -/
theorem within_talks_bare {command : Command} (h : command ≠ .load) :
    Within Session.Talks (bare command) := by
  cases command with
  | load => exact absurd rfl h
  | select => exact within_showSelection
  | info => exact within_bind (within_liftM Action.within_activeDriver) fun d => by simp
  | set => exact within_showSettings
  | help => exact within_bind (within_liftM (Action.within_print _)) fun _ => within_pure _
  | _ => exact within_pure _

/-- A new driver comes in wherever the output works. -/
theorem ensures_bare_load (s : Session) :
    Ensures (fun t => t = s) (bare .load) (fun o _ => o = .good)
      (fun _ => s.out.broken ≠ none) := by
  have hout : s.setDriver.2.out = s.out := by
    obtain ⟨active, fleet, heq⟩ := Session.setDriver_eq s
    rw [heq]
    rfl
  refine Ensures.session_bind fun t ht => ?_
  obtain rfl : t = s := ht
  rw [← hout]
  exact (ensures_announced _ _ _).mono (fun _ h => h) (fun _ _ h => h.1) fun _ h => h

/-! ## Lines -/

/-- The name of such a command is a line without an argument. -/
theorem command?_name : ∀ command ∈ optionalArgument,
    command? (Cursor.ofLine command.name) = some command ∧
      (Cursor.ofLine command.name).advance.current.kind = .finish := by
  decide +kernel

/-- A line that names a command comes to what the command does behind the name. -/
theorem execute_of_command {s : Session} {line : String} {command : Command}
    (hname : command? (Cursor.ofLine line) = some command) :
    s.execute line =
      (((perform runScript command).result (Cursor.ofLine line).advance s).1,
        ((perform runScript command).result (Cursor.ofLine line).advance s).2.dropTemporaries) := by
  unfold Session.execute Session.executeWith
  rw [run_execute_of_command runScript hname]
  rfl

theorem result_perform_of_finish {command : Command} (hcommand : command ∈ optionalArgument)
    {c : Cursor} (hc : c.current.kind = .finish) (s : Session) :
    (perform runScript command).result c s = (bare command).result c s := by
  have hmore : c.hasMore = false := by rw [Cursor.hasMore, hc]; rfl
  unfold result
  rw [run_perform_bare runScript hcommand hmore]
  cases hw : warnsBare command with
  | false => rfl
  | true =>
    rw [if_pos rfl, run_bind, run_warnTrailing, if_pos hc]

section Invalid

variable {command : Command} {c : Cursor} {s : Session}

/-- **Before an invalid token** such a command warns, if it looks for something left of the line at
all, and then does what it does without an argument. -/
theorem result_perform_of_invalid (hcommand : command ∈ optionalArgument)
    (hc : c.current.kind = .invalid) :
    (perform runScript command).result c s =
      if warnsBare command then match s.err.write (command.warning c.remaining) with
        | .ok err => (bare command).result c { s with err }
        | .error why => (.error { fault := .output why }, s)
      else (bare command).result c s := by
  unfold result
  rw [run_perform_bare runScript hcommand (Cursor.hasMore_of_invalid hc)]
  cases hw : warnsBare command with
  | false => rfl
  | true =>
    rw [if_pos rfl, if_pos rfl, run_bind, run_warnTrailing, if_neg (by rw [hc]; simp)]
    cases s.err.write (command.warning c.remaining) <;> rfl

/-- What fails there is a write or the search for a driver. -/
theorem blameless_perform_of_invalid (hcommand : command ∈ optionalArgument)
    (hc : c.current.kind = .invalid) {f : Failure}
    (hf : ((perform runScript command).result c s).1 = .error f) : f.fault.kind ≠ .lex := by
  rw [result_perform_of_invalid hcommand hc] at hf
  cases hw : warnsBare command with
  | false =>
    rw [hw, if_neg Bool.false_ne_true] at hf
    exact (unread_bare command).blameless c s f hf
  | true =>
    rw [hw, if_pos rfl] at hf
    cases he : s.err.write (command.warning c.remaining) with
    | ok err =>
      rw [he] at hf
      exact (unread_bare command).blameless c { s with err } f hf
    | error why =>
      rw [he] at hf
      obtain rfl := Except.error.inj hf
      simp [Fault.kind]

theorem talks_perform_of_invalid (hcommand : command ∈ optionalArgument)
    (hc : c.current.kind = .invalid) (hload : command ≠ .load) :
    s.Talks ((perform runScript command).run c s).2 := by
  rw [run_perform_bare runScript hcommand (Cursor.hasMore_of_invalid hc)]
  have hbare : Within Session.Talks (bare command) := within_talks_bare hload
  exact within_ite (within_bind (within_warnTrailing command) fun _ => hbare) hbare c s

/-- Before an invalid token `load` goes well where both streams work. -/
theorem exists_run_load_of_invalid (hc : c.current.kind = .invalid) (hout : s.out.broken = none)
    (herr : s.err.broken = none) :
    ∃ c' t, (perform runScript .load).run c s = ((.ok .good, c'), t) := by
  obtain ⟨err, hwrite⟩ : ∃ err, s.err.write (Command.load.warning c.remaining) = .ok err := by
    rw [Sink.write, herr]
    exact ⟨_, rfl⟩
  have hload := ensures_bare_load { s with err } c { s with err } rfl
  rw [run_perform_bare runScript (by decide) (Cursor.hasMore_of_invalid hc), warnsBare, if_pos rfl,
    run_bind, run_warnTrailing, if_neg (by rw [hc]; simp), hwrite]
  rcases hrun : (bare .load).run c { s with err } with ⟨⟨f | o, c'⟩, t⟩
  · rw [hrun] at hload
    exact absurd hout hload
  · rw [hrun] at hload
    obtain rfl : o = .good := hload
    exact ⟨c', t, hrun⟩

end Invalid

end Statement

namespace Session

open Statement Reading

/-- **An invalid argument is taken for none.** Where the first word of a line names `load`,
`select`, `info`, `set` or `help` and an open quote or a character that begins no token comes behind
it, the line is never said to be at fault. `select`, `set` and `help` do what they do on a line of
their own; `load` and `info` do so behind a warning. But for `load` only text on the streams comes
of it; `load` goes well where the streams work, puts a new driver in the place of the one in use,
and ends all bindings of objects of the device. -/
theorem execute_of_invalid_argument {s : Session} {line : String} {command : Command}
    (hname : command? (Cursor.ofLine line) = some command)
    (hcommand : command ∈ [.load, .select, .info, .set, .help])
    (hinvalid : (Cursor.ofLine line).advance.current.kind = .invalid) :
    (∀ f, (s.execute line).1 = .error f → f.fault.kind ≠ .lex) ∧
    (command = .select ∨ command = .set ∨ command = .help →
      s.execute line = s.execute command.name) ∧
    (command = .load ∨ command = .info →
      s.execute line =
        match s.err.write (command.warning (Cursor.ofLine line).advance.remaining) with
        | .ok err => { s with err }.execute command.name
        | .error why => (.error { fault := .output why }, s.dropTemporaries)) ∧
    (command ≠ .load → s.temporaries = [] → s.Talks (s.execute line).2) ∧
    (command = .load → s.out.broken = none → s.err.broken = none →
      ∃ s', s.execute line = (.ok .good, s') ∧ s'.active = some s.fleet.drivers.length ∧
        s'.env.bindings = s.env.bindings.filter fun b => !b.2.object.isDriverOwned) := by
  have hmem : command ∈ optionalArgument := hcommand
  obtain ⟨hbare, hfinish⟩ := command?_name command hmem
  have hperform := execute_of_command (s := s) hname
  generalize (Cursor.ofLine line).advance = c at *
  have hline := hperform
  rw [result_perform_of_invalid hmem hinvalid] at hline
  have halone : ∀ t : Session, t.execute command.name =
      (((bare command).result c t).1, ((bare command).result c t).2.dropTemporaries) := by
    intro t
    rw [execute_of_command hbare, result_perform_of_finish hmem hfinish,
      (unread_bare command).same _ c]
  refine ⟨fun f hf => ?_, fun hc => ?_, fun hc => ?_, fun hc htemp => ?_, fun hc hout herr => ?_⟩
  · rw [hperform] at hf
    exact blameless_perform_of_invalid hmem hinvalid hf
  · have hw : warnsBare command = false := by rcases hc with rfl | rfl | rfl <;> rfl
    rw [hline, hw, if_neg Bool.false_ne_true, halone]
  · have hw : warnsBare command = true := by rcases hc with rfl | rfl <;> rfl
    rw [hline, hw, if_pos rfl]
    cases he : s.err.write (command.warning c.remaining) with
    | ok err => exact (halone { s with err }).symm
    | error why => rfl
  · obtain ⟨out, err, heq⟩ := talks_perform_of_invalid hmem hinvalid hc (s := s)
    have hsame := dropTemporaries_of_nil (s := ((perform runScript command).run c s).2)
      (by rw [heq]; exact htemp)
    rw [hperform]
    exact ⟨out, err, hsame.trans heq⟩
  · subst hc
    obtain ⟨c', t, hrun⟩ := exists_run_load_of_invalid hinvalid hout herr
    obtain ⟨hhost, hactive, -⟩ := exists_announced_of_run (.inl rfl) hrun
    obtain ⟨fleet, hdrop, -⟩ := letGo_eq { t with temporaries := [] } t.temporaries
    have hkept : t.dropTemporaries = { t with temporaries := [], fleet } := hdrop
    refine ⟨t.dropTemporaries, ?_, ?_⟩
    · rw [hperform, result, hrun]
    · rw [hkept]
      exact ⟨hactive, hhost.env⟩

/-- An open quote behind `load`: a new driver takes the place of the one in use, and the buffer that
was bound is gone. -/
theorem execute_of_open_quote :
    ∃ s', (after ["b = buffer(16)"]).execute "load \"sim" = (.ok .good, s') ∧
      s'.active = some 1 ∧ s'.env.names = [] := by
  have hname : command? (Cursor.ofLine "load \"sim") = some .load := by decide +kernel
  have hinvalid : (Cursor.ofLine "load \"sim").advance.current.kind = .invalid := by decide +kernel
  have hout : (after ["b = buffer(16)"]).out.broken = none := by decide +kernel
  have herr : (after ["b = buffer(16)"]).err.broken = none := by decide +kernel
  have hdrivers : (after ["b = buffer(16)"]).fleet.drivers.length = 1 := by decide +kernel
  have hnames : ((after ["b = buffer(16)"]).env.bindings.filter
      fun b => !b.2.object.isDriverOwned).map Prod.fst = [] := by decide +kernel
  obtain ⟨s', hexecute, hactive, henv⟩ :=
    (execute_of_invalid_argument hname (by decide) hinvalid).2.2.2.2 rfl hout herr
  rw [hdrivers] at hactive
  exact ⟨s', hexecute, hactive, by rw [Environment.names, henv, hnames]⟩

end Session

end DriverBench
