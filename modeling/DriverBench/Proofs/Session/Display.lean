import DriverBench.Proofs.Script.Beside
/-!
# What the options change

The options say what is shown and whether operations are waited for. Two sessions that differ in
nothing else are near, and lines, scripts and script files lead from near sessions to near ones,
with the same answers. What is bound is then kept on both sides as the same, since the balance says
that it is kept at all; and what only one side keeps is what is in flight there (`SameResults`).

So the options change what is printed, what is waited for and what stays in flight, and nothing that
a line comes to (`Reached.same_results`).
-/

namespace DriverBench

open Device Simulator

/-- What a session is given from outside. -/
inductive Input where
  | line (text : String)
  /-- The source of a script. -/
  | script (source : String)
  /-- A file with a script. -/
  | file (path : String)

namespace Session

variable {s s' : Session}

/-- What an input comes to. Only the source of a script may fail without a report. -/
def give (s : Session) : Input → Except Failure Outcome × Session
  | .line text => (.ok (s.runLine text).1, (s.runLine text).2)
  | .script source => (DriverBench.runScript source).run.run s
  | .file path => (.ok (s.runScriptFile path).1, (s.runScriptFile path).2)

/-- What inputs come to that are given one after the other. -/
def giveAll (s : Session) : List Input → List (Except Failure Outcome) × Session
  | [] => ([], s)
  | input :: rest =>
    ((s.give input).1 :: ((s.give input).2.giveAll rest).1, ((s.give input).2.giveAll rest).2)

/-! ## Sessions with other options -/

/-- **Equal but for the options**, and for whether the drivers wait for their operations. -/
structure EqualButOptions (s s' : Session) : Prop where
  rest : s' = { s with options := s'.options, fleet := s'.fleet }
  drivers : Fleet.Pairs (fun d d' => d' = { d with blocking := d'.blocking }) s.fleet s'.fleet

/-- The session with other options, of which the driver in use is told. -/
def withOptions (s : Session) (options : Options) : Session :=
  { s with
    options
    fleet := match s.active with
      | some n => s.fleet.modify n fun d => { d with blocking := options.block }
      | none => s.fleet }

theorem equalButOptions_withOptions (s : Session) (options : Options) :
    s.EqualButOptions (s.withOptions options) := by
  refine ⟨rfl, fun n => ?_⟩
  have hself : ∀ n, Option.Rel (fun d d' : State => d' = { d with blocking := d'.blocking })
      (s.fleet.get? n) (s.fleet.get? n) := by
    intro n
    cases s.fleet.get? n with
    | none => exact .none
    | some d => exact .some rfl
  unfold withOptions
  dsimp only
  cases s.active with
  | none => exact hself n
  | some m =>
    dsimp only
    rw [Fleet.get?_modify]
    split
    · next h =>
      subst h
      cases s.fleet.get? n with
      | none => exact .none
      | some d => exact .some rfl
    · exact hself n

theorem EqualButOptions.near (h : s.EqualButOptions s') (hs : s.Unbroken) : s.Near s' := by
  refine ⟨congrArg (·.env) h.rest, congrArg (·.temporaries) h.rest, congrArg (·.active) h.rest,
    congrArg (·.depth) h.rest, congrArg (·.files) h.rest, congrArg (·.codec) h.rest,
    congrArg (·.entities) h.rest, congrArg (·.journal) h.rest, hs, ?_, ?_⟩
  · rw [h.rest]
    exact hs
  · refine h.drivers.mono fun d d' hd => ?_
    rw [hd]
    exact { State.Near.refl d with }

theorem EqualButOptions.keeps (h : s.EqualButOptions s') : s.Keeps s' := by
  have hhandles : s'.handles = s.handles := (congrArg handles h.rest :)
  refine ⟨fun k => by rw [hhandles], congrArg (·.temporaries) h.rest, congrArg (·.active) h.rest,
    h.drivers.mono fun d d' hd => ?_⟩
  rw [hd]
  exact ⟨rfl, Nat.le_refl _, fun _ => Iff.rfl⟩

/-! ## Results -/

/-- An object of the device is in flight, and no name is bound to it. -/
def OnlyInFlight (s : Session) (h : Handle) : Prop :=
  (∃ e ∈ s.inFlight, e.object.handle? = some h) ∧ ∀ e ∈ s.env.values, e.object.handle? ≠ some h

/-- **The same results**: sessions that are near, of which the drivers keep the same for what is
bound, while what only one of them keeps is in flight there and not bound. -/
structure SameResults (s s' : Session) : Prop extends s.Near s' where
  bound : ∀ e ∈ s.env.values, ∀ h, e.object.handle? = some h →
    ∃ x, s.fleet.kept? h = some x ∧ s'.fleet.kept? h = some x
  alone : ∀ h, (s.fleet.kept? h).isSome → s'.fleet.kept? h = none → s.OnlyInFlight h
  alone' : ∀ h, (s'.fleet.kept? h).isSome → s.fleet.kept? h = none → s'.OnlyInFlight h

/-- Between two lines what a driver keeps is bound or in flight. -/
theorem Idle.bound_or_inFlight (hi : s.Idle) {h : Handle} (hh : (s.fleet.kept? h).isSome) :
    (∃ e ∈ s.env.values, e.object.handle? = some h) ∨
      ∃ e ∈ s.inFlight, e.object.handle? = some h := by
  have hmem : h ∈ s.reachable := by
    rw [← hi.handles_eq]
    exact ((hi.balanced.live h).1 hh).resolve_right List.not_mem_nil
  obtain ⟨e, he, hhandle⟩ := List.mem_filterMap.1 hmem
  rcases List.mem_append.1 he with he | he
  · exact .inl ⟨e, he, hhandle⟩
  · exact .inr ⟨e, he, hhandle⟩

theorem Idle.isSome_kept? (hi : s.Idle) {e : Entity} (he : e ∈ s.env.values) {h : Handle}
    (hh : e.object.handle? = some h) : (s.fleet.kept? h).isSome :=
  (hi.balanced.live h).2 (.inl (mem_handles.2 ⟨e, mem_held.2 (.inl he), hh⟩))

/-- What one side alone keeps is not bound, as it would be bound on the other side too. -/
theorem Near.onlyInFlight (h : s.Near s') (hi : s.Idle) (hi' : s'.Idle) {k : Handle}
    (hk : (s.fleet.kept? k).isSome) (hk' : s'.fleet.kept? k = none) : s.OnlyInFlight k := by
  have hfree : ∀ e ∈ s.env.values, e.object.handle? ≠ some k := by
    intro e he hhandle
    have hkept := hi'.isSome_kept? (h.env.symm ▸ he) hhandle
    rw [hk'] at hkept
    cases hkept
  refine ⟨(hi.bound_or_inFlight hk).resolve_left ?_, hfree⟩
  rintro ⟨e, he, hhandle⟩
  exact hfree e he hhandle

/-- Between two lines near sessions have the same results. -/
theorem Near.sameResults (h : s.Near s') (hi : s.Idle) (hi' : s'.Idle) : s.SameResults s' := by
  refine ⟨h, fun e he k hk => ?_, fun k hk hk' => h.onlyInFlight hi hi' hk hk',
    fun k hk hk' => h.symm.onlyInFlight hi' hi hk hk'⟩
  obtain ⟨x, hx⟩ := Option.isSome_iff_exists.1 (hi.isSome_kept? he hk)
  obtain ⟨x', hx'⟩ := Option.isSome_iff_exists.1 (hi'.isSome_kept? (h.env.symm ▸ he) hk)
  exact ⟨x, hx, hx'.trans (congrArg some (h.fleet.kept?_unique hx hx'))⟩

/-! ## Inputs -/

theorem Idle.give (hi : s.Idle) (input : Input) : (s.give input).2.Idle := by
  cases input with
  | line text => exact hi.runLineWith Statement.keepsIdle_runScript text
  | script source => exact hi.runScript source
  | file path => exact hi.runScriptFile path

/-- **One input** comes to the same in near sessions, line by line, and leaves near sessions. -/
theorem Near.give (h : s.Near s') (hi : s.Idle) (hi' : s'.Idle) (input : Input) :
    (s'.give input).1 = (s.give input).1 ∧ (s.give input).2.Near (s'.give input).2 ∧
      Beside s s' (s.give input).2 (s'.give input).2 := by
  cases input with
  | line text =>
    obtain ⟨houtcome, hnear⟩ := h.runLine hi hi' text
    exact ⟨congrArg Except.ok houtcome, hnear, h.beside_line hi hi' text⟩
  | script source =>
    obtain ⟨hanswer, hnear⟩ := Statement.runsEven_runScript source s s' h hi hi'
    exact ⟨hanswer, hnear, Statement.lineByLine_runScript source s s' h hi hi'⟩
  | file path =>
    obtain ⟨houtcome, hnear⟩ := h.runScriptFile hi hi' path
    exact ⟨congrArg Except.ok houtcome, hnear, h.beside_runScriptFile hi hi' path⟩

/-- **Inputs one after the other**, from the two sessions that each of them leaves. -/
theorem Near.giveAll (h : s.Near s') (hi : s.Idle) (hi' : s'.Idle) (inputs : List Input) :
    (s'.giveAll inputs).1 = (s.giveAll inputs).1 ∧
      (s.giveAll inputs).2.SameResults (s'.giveAll inputs).2 ∧
      Beside s s' (s.giveAll inputs).2 (s'.giveAll inputs).2 := by
  -- By the inputs; behind each of them the sessions are near again, and between two lines.
  induction inputs generalizing s s' with
  | nil => exact ⟨rfl, h.sameResults hi hi', beside_refl s s'⟩
  | cons input rest ih =>
    obtain ⟨hanswer, hnear, hbeside⟩ := h.give hi hi' input
    obtain ⟨hanswers, hresults, hbeside'⟩ := ih hnear (hi.give input) (hi'.give input)
    refine ⟨?_, hresults, hbeside.trans hbeside'⟩
    unfold Session.giveAll
    rw [hanswer, hanswers]

/-- **Options change no results.** Give the same lines, scripts and script files to two sessions
that are equal but for the options and for whether their drivers wait, and of which both streams
work. Each of them comes to the same in both, and so does every line that is run in a script.
Afterwards the sessions have the same bindings, files, launches and memory for what is bound: they
differ in what was printed, in what was waited for, and in what is in flight with what only this
keeps. -/
theorem Reached.same_results (hs : s.Reached) (hu : s.Unbroken) (h : s.EqualButOptions s')
    (inputs : List Input) :
    (s'.giveAll inputs).1 = (s.giveAll inputs).1 ∧
      (s.giveAll inputs).2.SameResults (s'.giveAll inputs).2 ∧
      Beside s s' (s.giveAll inputs).2 (s'.giveAll inputs).2 :=
  (h.near hu).giveAll hs.idle (hs.idle.keeps h.keeps) inputs

/-- A buffer and a kernel, in a session that waits. -/
def waiting : Session :=
  after ["b = buffer(16)", "p = program(\"kernel void k(global int* a) \x7b \x7d\")",
    "k = kernel(p, k)"]

/-- Other options: nothing is waited for, and lines of scripts are shown instead of notes. -/
def otherOptions : Options :=
  ⟨false, false, true, false⟩

/-- A launch, and behind it a script that releases the buffer of the launch and fails at its next
line, on both sides. Only the session that does not wait keeps the buffer. -/
theorem same_results_of_release :
    let inputs := [.line "run k((1), b)", .script "release b\nc = buffer(b)\nflush"]
    ((waiting.withOptions otherOptions).giveAll inputs).1 = (waiting.giveAll inputs).1 ∧
      (waiting.giveAll inputs).1 = [.ok .good, .ok .fail] ∧
      (waiting.giveAll inputs).2.SameResults
        ((waiting.withOptions otherOptions).giveAll inputs).2 ∧
      (waiting.giveAll inputs).2.fleet.kept? ⟨1, .buffer, some 0⟩ = none ∧
      ((waiting.withOptions otherOptions).giveAll inputs).2.OnlyInFlight ⟨1, .buffer, some 0⟩ := by
  intro inputs
  have hs : waiting.Reached := reached_after _
  obtain ⟨hanswers, hresults, -⟩ := hs.same_results
    ⟨by decide +kernel, by decide +kernel⟩ (equalButOptions_withOptions waiting otherOptions) inputs
  have hgone : (waiting.giveAll inputs).2.fleet.kept? ⟨1, .buffer, some 0⟩ = none := by
    decide +kernel
  exact ⟨hanswers, by decide +kernel, hresults, hgone,
    hresults.alone' _ (by decide +kernel) hgone⟩

end Session

end DriverBench
