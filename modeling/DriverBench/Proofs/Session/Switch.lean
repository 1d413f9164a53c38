import Mathlib.Data.List.Basic
import DriverBench.Proofs.Command.Execute
import DriverBench.Proofs.Session.Reached
/-!
# A change of driver or of selection

A new driver, or another platform or device of the one in use, makes what was got from the device
meaningless. Either change takes just that out of the bindings and of the operations under way,
before a new driver comes in, and says how many bindings there were. Behind it the session refers to
nothing of any driver, so that no driver keeps anything (`Reached.switches`); and what the lines
behind it refer to was given out by the driver that is in use then, as ever.
-/

namespace DriverBench

open Device Simulator

/-- A write that is no empty one is put behind the text of the stream, and goes through only where
the stream works. -/
theorem Sink.write_cases (s : Sink) {text : String} (hne : text ≠ "") :
    s.broken = none ∧ s.write text = .ok { s with text := s.text ++ text } ∨
      ∃ why, s.broken = some why ∧ s.write text = .error why := by
  unfold Sink.write
  cases hb : s.broken with
  | none => exact .inl ⟨rfl, rfl⟩
  | some why =>
    refine .inr ⟨why, rfl, ?_⟩
    dsimp only
    rw [if_neg (by simpa using hne)]

namespace Session

/-! ## What is said of a change -/

/-- The session behind a note: a line more on the output, if notes are wanted. -/
def tell (s : Session) (text : String) : Session :=
  if s.options.verbose then { s with out := { s.out with text := s.out.text ++ (text ++ "\n") } }
  else s

/-- What is noted of the bindings that a change ended. -/
def clearedText (count : Nat) : String :=
  s!"ドライバオブジェクト {count} 個を解放しました"

/-- The session behind the note on the bindings that a change ended, if there were any. -/
def tellCleared (s : Session) (count : Nat) : Session :=
  if count = 0 then s else s.tell (clearedText count)

/-- The output with the notes of a change that ended a number of bindings. -/
def announcedText (s : Session) (said : String) (count : Nat) : String :=
  if s.options.verbose then
    s.out.text ++ (said ++ "\n") ++ (if count = 0 then "" else clearedText count ++ "\n")
  else s.out.text

/-- Nothing but the text on the output differs. -/
theorem tell_eq (s : Session) (text : String) :
    ∃ out, s.tell text = { s with out := { s.out with text := out } } := by
  unfold tell
  split
  · exact ⟨_, rfl⟩
  · exact ⟨s.out.text, rfl⟩

theorem tellCleared_eq (s : Session) (count : Nat) :
    ∃ out, s.tellCleared count = { s with out := { s.out with text := out } } := by
  unfold tellCleared
  split
  · exact ⟨s.out.text, rfl⟩
  · exact tell_eq s _

/-- The number of bindings of what the device holds. -/
def ownedCount (s : Session) : Nat :=
  (s.env.bindings.filter fun b => b.2.object.isDriverOwned).length

/-- **The count** is that of the bindings which a change ends. -/
theorem fst_invalidate (s : Session) : s.invalidate.1 = s.ownedCount := by
  have hsplit := List.length_eq_length_filter_add
    (l := s.env.bindings) fun b => b.2.object.isDriverOwned
  change s.env.bindings.length -
    (s.env.bindings.filter fun b => !b.2.object.isDriverOwned).length = _
  unfold ownedCount
  omega

end Session

/-- What is written about the rest of a line that a command does not read. -/
def Command.warning (command : Command) (rest : String) : String :=
  "警告: " ++ s!"'{command.name}' の後の '{rest}' は無視します" ++ "\n"

namespace Action

/-- A note goes through where the output works. -/
theorem ensures_note (text : String) (s : Session) :
    Ensures (fun t => t = s) (note text) (fun _ t => t = s.tell text)
      (fun _ => s.out.broken ≠ none) := by
  rintro s rfl
  by_cases hv : s.options.verbose = true
  · have hnote : (note text).run.run s = (print (text ++ "\n")).run.run s := by
      unfold note say
      rw [run_get_bind, if_pos hv]
    have hne : text ++ "\n" ≠ "" := by simp
    rw [hnote, print, run_get_bind]
    rcases s.out.write_cases hne with ⟨-, hw⟩ | ⟨why, hb, hw⟩
    · rw [hw, Session.tell, if_pos hv]
      rfl
    · rw [hw]
      change s.out.broken ≠ none
      rw [hb]
      exact Option.some_ne_none why
  · have hrun : (note text).run.run s = (.ok (), s) := by
      unfold note
      rw [run_get_bind, if_neg hv]
      rfl
    rw [hrun, Session.tell, if_neg hv]

end Action

namespace Reading

theorem ensures_noteCleared (count : Nat) (s : Session) :
    Ensures (fun t => t = s) (noteCleared count) (fun _ t => t = s.tellCleared count)
      (fun _ => s.out.broken ≠ none) := by
  unfold noteCleared
  refine Ensures.ite (fun hne => ?_) fun hnot => ?_
  · rw [Session.tellCleared, if_neg hne]
    exact Ensures.liftM (Action.ensures_note _ s)
  · rw [Session.tellCleared, if_pos (Decidable.of_not_not hnot)]
    exact Ensures.pure fun _ h => h

/-- A warning is written if something is left of the line, and then the error stream has to work. -/
theorem run_warnTrailing (command : Command) (c : Cursor) (s : Session) :
    (warnTrailing command).run c s =
      if c.current.kind = .finish then ((.ok (), c), s)
      else match s.err.write (command.warning c.remaining) with
        | .ok err => ((.ok (), c), { s with err })
        | .error why => ((.error { fault := .output why }, c), s) := by
  have hwarn : ∀ text, (Action.warn text).run.run s =
      match s.err.write ("警告: " ++ text ++ "\n") with
        | .ok err => (.ok (), { s with err })
        | .error why => (.error { fault := .output why }, s) := by
    intro text
    unfold Action.warn Action.printError
    rw [Action.run_get_bind]
    cases s.err.write ("警告: " ++ text ++ "\n") <;> rfl
  unfold warnTrailing
  rw [run_cursor_bind]
  by_cases hk : c.current.kind = .finish
  · rw [if_neg (not_not_intro hk), if_pos hk]
    rfl
  · rw [if_pos hk, if_neg hk, run_liftM, hwarn]
    unfold Command.warning
    cases s.err.write ("警告: " ++ s!"'{command.name}' の後の '{c.remaining}' は無視します" ++ "\n") <;> rfl

theorem ensures_warnTrailing (command : Command) (s : Session) :
    Ensures (fun t => t = s) (warnTrailing command) (fun _ t => ∃ err, t = { s with err })
      (fun _ => True) := by
  rintro c s rfl
  rw [run_warnTrailing]
  by_cases hk : c.current.kind = .finish
  · rw [if_pos hk]
    exact ⟨s.err, rfl⟩
  · rw [if_neg hk]
    cases s.err.write (command.warning c.remaining) with
    | ok err => exact ⟨err, rfl⟩
    | error why => trivial

/-- What a change ends with: the session gives way to another one, and notes are made. -/
theorem ensures_announced {P : Session → Prop} (s' : Session) (said : String) (count : Nat) :
    Ensures P (do
        change fun _ => s'
        Action.note said
        noteCleared count
        return Outcome.good)
      (fun o t => o = .good ∧ t = (s'.tell said).tellCleared count)
      (fun _ => s'.out.broken ≠ none) := by
  have hout : (s'.tell said).out.broken = s'.out.broken := by
    obtain ⟨out, heq⟩ := s'.tell_eq said
    rw [heq]
  refine Ensures.replace (I := fun t => t = s') rfl ?_
  refine (Ensures.liftM (Action.ensures_note said s')).bind fun _ => ?_
  refine Ensures.bind ((ensures_noteCleared count (s'.tell said)).mono (fun _ h => h)
    (fun _ _ h => h) fun _ h => hout ▸ h) fun _ => ?_
  exact Ensures.pure fun _ h => ⟨rfl, h⟩

end Reading

namespace Statement

open Reading

/-! ## The two commands -/

/-- What is noted of a new driver. -/
def loadedText (name : String) : String :=
  s!"ドライバ '{name}' を読み込みました"

/-- What is noted of another platform or device. -/
def selectedText (target : SelectionTarget) (index : Nat) : String :=
  s!"{target.name} {index} を選択しました"

/-- What does not touch the session leaves it as it is known. -/
theorem ensures_of_within_eq {α : Type} {r : Reading α} {P : Session → Prop}
    (h : Within (fun s s' => s' = s) r) : Ensures P r (fun _ => P) (fun _ => True) :=
  (h.ensures (P := P) fun _ _ heq hP => heq ▸ hP).mono (fun _ h => h) (fun _ _ h => h)
    fun _ _ => trivial

/-- **What `load` comes to**: but for a warning, a new driver and two notes. -/
theorem ensures_load_switch (s : Session) :
    Ensures (fun t => t = s) load (fun _ t => ∃ name err, t =
        ({ s with err }.setDriver.2.tell (loadedText name)).tellCleared s.ownedCount)
      (fun _ => True) := by
  unfold load
  refine (ensures_of_within_eq within_libraryArgument).bind fun library => ?_
  refine (ensures_warnTrailing .load s).bind fun _ => ?_
  split
  · exact Ensures.throw fun _ _ => trivial
  · refine Ensures.session_bind fun t ht => ?_
    obtain ⟨err, rfl⟩ := ht
    refine (ensures_announced _ _ _).mono (fun _ h => h) (fun o t h => ?_) fun _ _ => trivial
    have hcount : { s with err }.setDriver.1 = s.ownedCount := Session.fst_invalidate _
    rw [← hcount]
    exact ⟨_, err, h.2⟩

/-- **What `select` comes to** where it is told what to select: but for a warning, a call of the
driver in use, an end of the objects of the device, and two notes. -/
theorem ensures_changeSelection_switch (s : Session) :
    Ensures (fun t => t = s) changeSelection (fun _ t => ∃ target index err fleet,
        fleet.drivers.length = s.fleet.drivers.length ∧ t =
          ({ s with err, fleet }.invalidate.2.tell (selectedText target index)).tellCleared
            s.ownedCount) (fun _ => True) := by
  unfold changeSelection
  refine (ensures_of_within_eq (within_choice _ _ _)).bind fun target => ?_
  refine (ensures_of_within_eq (within_sizeArgument _)).bind fun index => ?_
  refine (ensures_warnTrailing .select s).bind fun _ => ?_
  refine (ensures_of_within_eq (within_liftM Action.within_activeDriver)).bind fun _ => ?_
  have hdrive : Action.Ensures (fun t => ∃ err, t = { s with err })
      (Action.drive (target.select index.1))
      (fun _ t => ∃ err fleet, fleet.drivers.length = s.fleet.drivers.length ∧
        t = { s with err, fleet }) (fun _ => True) := by
    refine Action.Ensures.drive (fun _ _ _ => trivial) fun t n d ht hn hd => ?_
    obtain ⟨err, rfl⟩ := ht
    rcases (target.select index.1).run.run d with ⟨e | a, d'⟩
    · trivial
    · exact ⟨err, _, List.length_modify .., rfl⟩
  refine (Ensures.liftM (hdrive.atSpan index.2.span)).bind fun _ => ?_
  refine Ensures.session_bind fun t ht => ?_
  obtain ⟨err, fleet, hlength, rfl⟩ := ht
  refine (ensures_announced _ _ _).mono (fun _ h => h) (fun o t h => ?_) fun _ _ => trivial
  have hcount : { s with err, fleet }.invalidate.1 = s.ownedCount := Session.fst_invalidate _
  rw [← hcount]
  exact ⟨target, index.1, err, fleet, hlength, h.2⟩

end Statement

namespace Session

/-! ## Behind a change -/

/-- The bindings and the operations under way are those of the host, in their order, and the drivers
that there were are still there. -/
structure KeepsHost (s s' : Session) : Prop where
  env : s'.env.bindings = s.env.bindings.filter fun b => !b.2.object.isDriverOwned
  inFlight : s'.inFlight = s.inFlight.filter fun e => !e.object.isDriverOwned
  temporaries : s'.temporaries = s.temporaries
  drivers : s.fleet.drivers.length ≤ s'.fleet.drivers.length

theorem length_invalidate (s : Session) :
    s.invalidate.2.fleet.drivers.length = s.fleet.drivers.length := by
  obtain ⟨fleet, heq, hpairs⟩ := letGo_eq s.hostOnly
    ((s.env.values ++ s.inFlight).filter (·.object.isDriverOwned))
  have hinvalidate : s.invalidate.2 = { s.hostOnly with fleet } := heq
  rw [hinvalidate]
  exact hpairs.length_eq

theorem keepsHost_invalidate (s : Session) : s.KeepsHost s.invalidate.2 := by
  obtain ⟨fleet, heq⟩ := invalidate_eq s
  have hlength := length_invalidate s
  rw [heq] at hlength ⊢
  exact ⟨rfl, rfl, rfl, Nat.le_of_eq hlength.symm⟩

/-- A new driver has the number behind those of all drivers before it. -/
theorem setDriver_serial (s : Session) :
    s.setDriver.2.active = some s.fleet.drivers.length ∧
      s.setDriver.2.fleet.drivers.length = s.fleet.drivers.length + 1 := by
  rw [← length_invalidate s]
  refine ⟨rfl, ?_⟩
  change (List.modify (s.invalidate.2.fleet.drivers ++ [_]) _ _).length = _
  rw [List.length_modify, List.length_append, List.length_singleton]

theorem keepsHost_setDriver (s : Session) : s.KeepsHost s.setDriver.2 := by
  obtain ⟨active, fleet, heq⟩ := setDriver_eq s
  have hlength := (setDriver_serial s).2
  rw [heq] at hlength ⊢
  exact ⟨rfl, rfl, rfl, Nat.le_of_lt (Nat.lt_of_succ_le (Nat.le_of_eq hlength.symm))⟩

/-- Notes are on the output and nowhere else. -/
theorem announced_eq (s : Session) (said : String) (count : Nat) :
    ∃ out, (s.tell said).tellCleared count = { s with out := { s.out with text := out } } := by
  obtain ⟨out, heq⟩ := s.tell_eq said
  obtain ⟨out', heq'⟩ := (s.tell said).tellCleared_eq count
  rw [heq'] at *
  rw [heq]
  exact ⟨out', rfl⟩

theorem KeepsHost.announced {s s₁ : Session} (h : s.KeepsHost s₁) (said : String) (count : Nat) :
    s.KeepsHost ((s₁.tell said).tellCleared count) := by
  obtain ⟨out, heq⟩ := s₁.announced_eq said count
  rw [heq]
  exact ⟨h.env, h.inFlight, h.temporaries, h.drivers⟩

/-- The two notes on a change stand behind what was on the output, if notes are wanted. -/
theorem out_tellCleared (s : Session) (said : String) (count : Nat) :
    ((s.tell said).tellCleared count).out.text = s.announcedText said count := by
  unfold tellCleared tell announcedText
  by_cases hv : s.options.verbose = true <;> by_cases hc : count = 0 <;> simp [hv, hc]

theorem dropTemporaries_of_nil {s : Session} (h : s.temporaries = []) : s.dropTemporaries = s := by
  have hs : s = { s with temporaries := [] } := by rw [← h]
  rw [dropTemporaries, h, ← hs]
  rfl

/-- A line that goes well is one whose reading does. -/
theorem exists_run_of_runLine {s s' : Session} {line : String}
    (h : s.runLine line = (.good, s')) :
    ∃ c t, (Statement.execute runScript).run (Cursor.ofLine line) (s.note (.ran s.depth line)) =
      ((.ok .good, c), t) ∧ s' = t.dropTemporaries := by
  unfold runLine runLineWith executeWith at h
  dsimp only at h
  rcases hrun : (Statement.execute runScript).run (Cursor.ofLine line)
    (s.note (.ran s.depth line)) with ⟨⟨f | o, c⟩, t⟩
  · rw [hrun] at h
    cases h
  · rw [hrun] at h
    cases h
    exact ⟨c, t, rfl, rfl⟩

/-- **Where nothing is referred to no driver keeps anything.** -/
theorem Idle.liveCount_eq_zero {s : Session} (h : s.Idle) (hnone : s.reachable = []) {n : Nat}
    {d : State} (hd : s.fleet.get? n = some d) : d.liveCount = 0 := by
  refine State.liveCount_eq_zero fun kind id => ?_
  rw [h.balanced.isSome_lookup_iff hd, h.handles_eq, hnone]
  simp

/-- Nothing of a driver is referred to where all that is bound and under way is of the host. -/
theorem KeepsHost.reachable_eq_nil {s s' : Session} (h : s.KeepsHost s') : s'.reachable = [] := by
  rw [reachable, List.filterMap_eq_nil_iff]
  intro e he
  have hhost : e.object.isDriverOwned = false := by
    rcases List.mem_append.1 he with he | he
    · rw [Environment.values, h.env] at he
      obtain ⟨b, hb, rfl⟩ := List.mem_map.1 he
      simpa using (List.mem_filter.1 hb).2
    · rw [h.inFlight] at he
      simpa using (List.mem_filter.1 he).2
  simpa [Object.isDriverOwned] using hhost

/-! ## Lines that change driver or selection -/

/-- What a command notes of the change that it makes. -/
inductive Announces : Command → String → Prop
  | load (name : String) : Announces .load (Statement.loadedText name)
  | select (target : SelectionTarget) (index : Nat) :
      Announces .select (Statement.selectedText target index)

/-- A command that changed driver or selection left what is of the host and made its notes. -/
theorem exists_announced_of_run {runner : ScriptRunner} {s t : Session} {command : Command}
    {c c' : Cursor} {o : Outcome}
    (hc : command = .load ∨ command = .select ∧ c.hasMore = true)
    (hrun : (Statement.perform runner command).run c s = ((.ok o, c'), t)) :
    s.KeepsHost t ∧
      t.active = (if command = .load then some s.fleet.drivers.length else s.active) ∧
      ∃ said, Announces command said ∧ t.out.text = s.announcedText said s.ownedCount := by
  rcases hc with rfl | ⟨rfl, hmore⟩
  · have hload := Statement.ensures_load_switch s c s rfl
    change Statement.load.run c s = _ at hrun
    rw [hrun] at hload
    obtain ⟨name, err, rfl⟩ := hload
    obtain ⟨out, hout⟩ := { s with err }.setDriver.2.announced_eq (Statement.loadedText name)
      s.ownedCount
    obtain ⟨active, fleet, heq⟩ := setDriver_eq { s with err }
    refine ⟨?_, ?_, _, .load name, ?_⟩
    · have hkeeps := keepsHost_setDriver { s with err }
      obtain ⟨henv, hflight, htemp, hdrivers⟩ :=
        hkeeps.announced (Statement.loadedText name) s.ownedCount
      exact ⟨henv, hflight, htemp, hdrivers⟩
    · rw [hout, if_pos rfl]
      exact (setDriver_serial { s with err }).1
    · rw [out_tellCleared, heq]
      rfl
  · have hselect := Statement.ensures_changeSelection_switch s c s rfl
    have hsame : Statement.select.run c s = Statement.changeSelection.run c s := by
      have hlook : Reading.hasMore.run c s = ((.ok c.hasMore, c), s) := rfl
      unfold Statement.select
      rw [Reading.run_bind, hlook, hmore]
      rfl
    change Statement.select.run c s = _ at hrun
    rw [← hsame, hrun] at hselect
    obtain ⟨target, index, err, fleet, hfleet, rfl⟩ := hselect
    obtain ⟨out, hout⟩ := { s with err, fleet }.invalidate.2.announced_eq
      (Statement.selectedText target index) s.ownedCount
    obtain ⟨fleet', heq⟩ := invalidate_eq { s with err, fleet }
    refine ⟨?_, ?_, _, .select target index, ?_⟩
    · have hkeeps := keepsHost_invalidate { s with err, fleet }
      obtain ⟨henv, hflight, htemp, hdrivers⟩ :=
        hkeeps.announced (Statement.selectedText target index) s.ownedCount
      exact ⟨henv, hflight, htemp, Nat.le_trans (Nat.le_of_eq hfleet.symm) hdrivers⟩
    · rw [hout, if_neg (by simp), heq]
      rfl
    · rw [out_tellCleared, heq]
      rfl

/-- **A change of driver or of selection** ends what is of the device and nothing else. Behind a
line that loads a driver, or selects a platform or a device, and goes well, the bindings and what
operations under way may use are those of the host that there were, in their order; no driver that
there was keeps anything alive; the driver in use is a new one behind `load` and the same behind
`select`; the count of bindings in the note is that of the bindings which were taken out; and
whatever lines are run from then on, what the session refers to was given out by the driver that is
in use. -/
theorem Reached.switches {s s' : Session} (hs : s.Reached) {line : String} {command : Command}
    (hname : Statement.command? (Cursor.ofLine line) = some command)
    (hc : command = .load ∨ command = .select ∧ (Cursor.ofLine line).advance.hasMore = true)
    (hrun : s.runLine line = (.good, s')) :
    s'.env.bindings = (s.env.bindings.filter fun b => !b.2.object.isDriverOwned) ∧
    s'.inFlight = (s.inFlight.filter fun e => !e.object.isDriverOwned) ∧
    (∀ n d, s.fleet.get? n = some d → ∃ d', s'.fleet.get? n = some d' ∧ d'.liveCount = 0) ∧
    s'.active = (if command = .load then some s.fleet.drivers.length else s.active) ∧
    (∃ said, Announces command said ∧
      s'.out.text = s.announcedText said (s.env.bindings.length - s'.env.bindings.length)) ∧
    ∀ later : List String,
      let t := later.foldl (fun t line => (t.runLine line).2) s'
      ∀ h ∈ t.reachable, h.issuer = t.active := by
  have hreached : s'.Reached := by
    have h := hs.runLine line
    rwa [hrun] at h
  obtain ⟨c, t, hexecute, hdrop⟩ := exists_run_of_runLine hrun
  rw [Statement.run_execute_of_command _ hname] at hexecute
  obtain ⟨hhost, hactive, said, hsaid, htext⟩ := exists_announced_of_run hc hexecute
  obtain rfl : s' = t :=
    hdrop.trans (dropTemporaries_of_nil (hhost.temporaries.trans hs.idle.temporaries))
  refine ⟨hhost.env, hhost.inFlight, fun n d hd => ?_, hactive, ⟨said, hsaid, ?_⟩, fun later => ?_⟩
  · have hn : n < s'.fleet.drivers.length :=
      Nat.lt_of_lt_of_le (List.getElem?_eq_some_iff.1 hd).1 hhost.drivers
    exact ⟨_, List.getElem?_eq_getElem hn, hreached.idle.liveCount_eq_zero
      (KeepsHost.reachable_eq_nil hhost) (List.getElem?_eq_getElem hn)⟩
  · have hcount : s.env.bindings.length - s'.env.bindings.length = s.ownedCount := by
      rw [hhost.env]
      exact fst_invalidate s
    rw [hcount]
    exact htext
  · have hlater := (hreached.runLines later).idle
    intro t h hh
    rw [← hlater.handles_eq] at hh
    exact hlater.balanced.issuer_eq hh

/-- A buffer under two names and a number under a third: a new driver leaves the number. -/
theorem switches_of_two_names :
    ∃ s', (after ["b = buffer(16)", "c = b", "n = int(7)"]).runLine "load" = (.good, s') ∧
      s'.env.names = ["n"] ∧ s'.active = some 1 ∧
      ∃ said, Announces .load said ∧
        s'.out.text = (after ["b = buffer(16)", "c = b", "n = int(7)"]).announcedText said 2 := by
  have hname : Statement.command? (Cursor.ofLine "load") = some .load := by decide +kernel
  have hgood : ((after ["b = buffer(16)", "c = b", "n = int(7)"]).runLine "load").1 = .good := by
    decide +kernel
  have hdrivers : (after ["b = buffer(16)", "c = b", "n = int(7)"]).fleet.drivers.length = 1 := by
    decide +kernel
  have hnames : ((after ["b = buffer(16)", "c = b", "n = int(7)"]).env.bindings.filter
      fun b => !b.2.object.isDriverOwned).map Prod.fst = ["n"] := by decide +kernel
  have hlength : (after ["b = buffer(16)", "c = b", "n = int(7)"]).env.bindings.length = 3 := by
    decide +kernel
  rcases hrun : (after ["b = buffer(16)", "c = b", "n = int(7)"]).runLine "load" with ⟨o, s'⟩
  rw [hrun] at hgood
  dsimp only at hgood
  subst hgood
  obtain ⟨henv, -, -, hactive, ⟨said, hsaid, htext⟩, -⟩ :=
    (reached_after _).switches hname (.inl rfl) hrun
  have hleft : s'.env.names = ["n"] := by rw [Environment.names, henv, hnames]
  have hone : s'.env.bindings.length = 1 := by
    have h := congrArg List.length hleft
    rwa [Environment.names, List.length_map] at h
  rw [hlength, hone] at htext
  rw [if_pos rfl, hdrivers] at hactive
  exact ⟨s', rfl, hleft, hactive, said, hsaid, htext⟩

end Session

end DriverBench
