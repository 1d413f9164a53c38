import DriverBench.Proofs.Session.Switch
import DriverBench.Proofs.Expression.InFlight
/-!
# What a command leaves in flight

A command evaluates expressions at a few moments, each of them behind what it has read so far
(`Statement.Evaluates`). What an expression leaves in flight is in flight behind the command as
well, and so are the arguments of a launch that is not waited for. The other way round, the objects
that operations may still use are taken away by `wait` only, and those that the device holds by
`load` and `select` too; and a command that fails takes none away, unless it had made its change
(`Statement.Switches`) and what failed was the note about that (`Session.NoteLost`).
-/

namespace DriverBench

open Device Simulator

namespace Session

/-- What a command has to say is lost: notes are wanted and the output takes nothing, and that is
why it fails. -/
def NoteLost (s : Session) (f : Failure) : Prop :=
  s.options.verbose = true ∧ ∃ why, s.out.broken = some why ∧ f.fault = .output why

/-- The operations under way, the options and the state of the output are the same. -/
structure Calm (s s' : Session) : Prop where
  inFlight : s'.inFlight = s.inFlight
  options : s'.options = s.options
  out : s'.out.broken = s.out.broken

instance : TalkFrame Calm where
  refl _ := ⟨rfl, rfl, rfl⟩
  trans h h' := ⟨h'.inFlight.trans h.inFlight, h'.options.trans h.options, h'.out.trans h.out⟩
  of_talks := by
    rintro s _ ⟨out, err, rfl⟩
    exact ⟨rfl, rfl, rfl⟩

theorem Calm.noteLost_iff {s s' : Session} (h : s.Calm s') {f : Failure} :
    s'.NoteLost f ↔ s.NoteLost f := by
  unfold NoteLost
  rw [h.options, h.out]

/-- The driver in use waits for its operations if and only if it did, and the options are the same.
-/
structure SameBlocking (s s' : Session) : Prop where
  flag : s'.blocking? = s.blocking?
  options : s'.options = s.options

instance : TalkFrame SameBlocking where
  refl _ := ⟨rfl, rfl⟩
  trans h h' := ⟨h'.flag.trans h.flag, h'.options.trans h.options⟩
  of_talks := by
    rintro s _ ⟨out, err, rfl⟩
    exact ⟨rfl, rfl⟩

theorem Spares.sameBlocking {s s' : Session} (h : s.Spares s') : s.SameBlocking s' :=
  ⟨h.blocking?_eq, h.options⟩

end Session

/-- A driver waits for its operations if and only if the other does. -/
def Simulator.State.SameBlocking (d d' : State) : Prop :=
  d'.blocking = d.blocking

instance : Frame State.SameBlocking where
  refl _ := rfl
  trans h h' := Eq.trans h' h

/-- A call that does not touch the flag of the driver. -/
theorem Action.within_blocking_drive {α : Type} {call : Call α}
    (h : Action.Within State.SameBlocking call) :
    Action.Within Session.SameBlocking (Action.drive call) := by
  refine Action.within_drive fun s n d hd => ⟨?_, rfl⟩
  refine Session.blocking?_eq_of_pairs (R := State.SameBlocking) rfl
    (Fleet.pairs_modify fun d₀ hd₀ => ?_) fun _ _ hb => hb
  rw [hd] at hd₀
  exact Option.some.inj hd₀ ▸ h d

namespace Reading

open Session (Spares Retains)

variable {σ : Type} {step : σ → Reading (Step σ)} {a b : σ} {c c' : Cursor} {s s' : Session}
  {e : Entity}

/-! ## In the middle of a loop -/

/-- A loop comes to a value, a cursor and a session by steps that go on. -/
inductive Iterates (step : σ → Reading (Step σ)) :
    σ → Cursor → Session → σ → Cursor → Session → Prop
  | start (a : σ) (c : Cursor) (s : Session) : Iterates step a c s a c s
  | next {a b a' : σ} {c c' c'' : Cursor} {s s' s'' : Session} :
      Gives (step a) c s (.next b) c' s' → c'.pending.length < c.pending.length →
      Iterates step b c' s' a' c'' s'' → Iterates step a c s a' c'' s''

/-- What is left of a loop is the loop from there on. -/
theorem Iterates.run_loop (h : Iterates step a c s b c' s') :
    (loop step a).run c s = (loop step b).run c' s' := by
  induction h with
  | start a c s => rfl
  | next hstep hlt _ ih => exact (run_loop_of_next hstep hlt).trans ih

theorem Iterates.spares (h : Iterates step a c s b c' s') (hstep : ∀ a, Within Spares (step a)) :
    s.Spares s' := by
  induction h with
  | start a c s => exact Frame.refl s
  | @next a b a' c c' c'' s s' s'' hgives _ _ ih =>
    exact Frame.trans (hgives.within (hstep a)) ih

/-- What the first step leaves in flight stays so. -/
theorem mem_inFlight_loop (hstep : ∀ a, Within (Retains fun _ => True) (step a))
    (h : e ∈ ((step a).run c s).2.inFlight) : e ∈ ((loop step a).run c s).2.inFlight := by
  change e ∈ (loopFrom step a c s).2.inFlight
  rw [loopFrom]
  rcases hr : (step a).run c s with ⟨⟨f | b | b, c'⟩, s'⟩
  · rw [hr] at h
    exact h
  · rw [hr] at h
    dsimp only
    split
    · exact within_loop hstep b c' s' e h trivial
    · exact h
  · rw [hr] at h
    exact h

end Reading

namespace Statement

open Reading
open Session (Spares Retains Allows)

variable {c c' : Cursor} {s s' : Session} {e : Entity} {p : Entity → Prop}

/-! ## The expressions of a line -/

/-- **The expressions of a line.** Executing what is ahead evaluates an expression at a cursor, in a
session: what an assignment binds, what `save` saves, the kernel of `run` and of `bind`, and the
objects that are given to it. -/
inductive Evaluates (c : Cursor) (s : Session) : Cursor → Session → Prop
  | assigned {name : String} {c₁ : Cursor} {s₁ : Session} : c.next.kind = .equal →
      Gives target c s name c₁ s₁ → Evaluates c s c₁.advance s₁
  | operand {command : Command} : command? c = some command →
      command = .save ∨ command = .run ∨ command = .bind → Evaluates c s c.advance s
  | launched {k : Token × Handle} {opening : Token} {globalSize : List Nat} {found : LaunchRest}
      {c₁ c₂ c₃ c₄ : Cursor} {s₁ s₂ s₃ s₄ : Session} : command? c = some .run →
      Gives kernelOperand c.advance s k c₁ s₁ →
      Gives (require .openParen .launchParenRequired) c₁ s₁ opening c₂ s₂ →
      Gives workSize c₂ s₂ globalSize c₃ s₃ →
      Iterates (launchItem globalSize) {} c₃ s₃ found c₄ s₄ → c₄.current.kind = .comma →
      Gives (localSizeAhead found) c₄.advance s₄ false c₄.advance s₄ →
      c₄.advance.current.kind ≠ .constant → Evaluates c s c₄.advance s₄
  | bound {k : Token × Handle} {more more' : Bool} {first : Nat × Token}
      {values : List (Token × Entity)} {c₁ c₂ c₃ c₄ c₅ : Cursor} {s₁ s₂ s₃ s₄ s₅ : Session} :
      command? c = some .bind → Gives kernelOperand c.advance s k c₁ s₁ →
      Gives (skip .comma) c₁ s₁ more c₂ s₂ →
      Gives (numberArgument .uint "引数番号") c₂ s₂ first c₃ s₃ →
      Iterates boundValue [] c₃ s₃ values c₄ s₄ → Gives (skip .comma) c₄ s₄ more' c₅ s₅ →
      c₅.hasMore = true → c₅.current.kind ≠ .constant → Evaluates c s c₅ s₅

/-- What was read in front of an expression took nothing away. -/
theorem Evaluates.spares (h : Evaluates c s c' s') : s.Spares s' := by
  cases h with
  | assigned _ htarget => exact htarget.within within_target
  | operand => exact Frame.refl s
  | launched _ hkernel hopening hsize hloop _ _ _ =>
    have h₁ := hkernel.within (R := Spares) within_kernelOperand
    have h₂ := Frame.trans h₁ (hopening.within (within_require _ _))
    have h₃ := Frame.trans h₂ (hsize.within within_workSize)
    exact Frame.trans h₃ (hloop.spares (within_launchItem _))
  | bound _ hkernel hcomma hfirst hloop hcomma' _ _ =>
    have h₁ := hkernel.within (R := Spares) within_kernelOperand
    have h₂ := Frame.trans h₁ (hcomma.within (within_skip _))
    have h₃ := Frame.trans h₂ (hfirst.within (within_numberArgument _ _))
    have h₄ := Frame.trans h₃ (hloop.spares within_boundValue)
    exact Frame.trans h₄ (hcomma'.within (within_skip _))

/-! ## What a command takes away -/

theorem within_retains_drive {α : Type} (call : Call α) :
    Action.Within (Retains p) (Action.drive call) :=
  Action.within_drive fun _ _ _ _ _ he _ => he

theorem within_retains_assignment : Within (Retains p) assignment :=
  within_assignment (fun _ _ h => h.retains) fun _ _ _ _ _ _ he _ => he

/-- What operations may still use is a matter of three commands. -/
theorem allows_retains {command : Command} (hwait : command ≠ .wait)
    (hswitch : (∀ e, p e → e.object.isDriverOwned = false) ∨ command ≠ .load ∧ command ≠ .select) :
    Allows (Retains p) command := by
  have hhost : command = .load ∨ command = .select →
      ∀ s s' : Session, s.KeepsHost s' → s.Retains p s' := by
    intro hcommand s s' hkeeps e he hp
    have howned : ∀ e, p e → e.object.isDriverOwned = false := by
      rcases hswitch with h | h
      · exact h
      · exact absurd hcommand (by simp [h.1, h.2])
    rw [hkeeps.inFlight]
    exact List.mem_filter.2 ⟨he, by simp [howned e hp]⟩
  cases command with
  | load => exact fun s => hhost (.inl rfl) _ _ (Session.keepsHost_setDriver s)
  | select =>
    exact ⟨fun _ _ => within_retains_drive _,
      fun s => hhost (.inr rfl) _ _ (Session.keepsHost_invalidate s)⟩
  | set =>
    intro s setting value e he _
    obtain ⟨fleet, heq, -⟩ := Session.configure_eq s setting value
    rw [heq]
    exact he
  | release =>
    intro s s' names count hu e he _
    obtain ⟨env, fleet, rfl⟩ := Session.unbind_eq hu
    exact he
  | save => exact fun _ _ _ he _ => he
  | run =>
    exact ⟨fun _ => within_retains_drive _, within_retains_drive _,
      fun _ es _ he _ => List.mem_append_left es he⟩
  | wait => exact absurd rfl hwait
  | flush => exact within_retains_drive _
  | info | list | script | bind | help | quit => trivial

/-- **Every command but `wait`** leaves in flight what is of the host, and every command but `wait`,
`load` and `select` whatever is in flight. -/
theorem within_retains_perform (runner : ScriptRunner) {command : Command}
    (hscript : command ≠ .script) (hwait : command ≠ .wait)
    (hswitch : (∀ e, p e → e.object.isDriverOwned = false) ∨ command ≠ .load ∧ command ≠ .select) :
    Within (Retains p) (perform runner command) :=
  within_perform (fun _ _ h => h.retains) runner hscript (allows_retains hwait hswitch)

/-! ## What an expression leaves in flight -/

section Expressions

variable {globalSize : List Nat}

theorem mem_inFlight_evaluateKept (he : e ∈ (evaluate.run c s).2.inFlight) :
    e ∈ (evaluateKept.run c s).2.inFlight := by
  unfold evaluateKept
  refine mem_inFlight_of_first (fun e => within_bind (within_liftM fun s => ?_) fun _ =>
    within_pure _) he
  exact fun _ he _ => he

theorem mem_inFlight_kernelOperand (he : e ∈ (evaluate.run c s).2.inFlight) :
    e ∈ (kernelOperand.run c s).2.inFlight := by
  have hcurrent : Gives current c s c.current c s := rfl
  unfold kernelOperand
  refine mem_inFlight_of_rest hcurrent
    (mem_inFlight_of_first (fun e => ?_) (mem_inFlight_evaluateKept he))
  split
  · exact within_pure _
  · exact within_raise _ _

theorem mem_inFlight_kernelValue (hkind : c.current.kind ≠ .constant)
    (he : e ∈ (evaluate.run c s).2.inFlight) : e ∈ (kernelValue.run c s).2.inFlight := by
  have hcurrent : Gives current c s c.current c s := rfl
  unfold kernelValue
  refine mem_inFlight_of_rest hcurrent ?_
  rw [if_neg hkind]
  exact mem_inFlight_of_first (fun _ => within_pure _) (mem_inFlight_evaluateKept he)

/-- A value behind a comma, which starts no local sizes. -/
theorem mem_inFlight_launchItem {found : LaunchRest} (hcomma : c.current.kind = .comma)
    (hahead : Gives (localSizeAhead found) c.advance s false c.advance s)
    (hkind : c.advance.current.kind ≠ .constant)
    (he : e ∈ (evaluate.run c.advance s).2.inFlight) :
    e ∈ ((launchItem globalSize found).run c s).2.inFlight := by
  have hclose : Gives (skip .closeParen) c s false c s := by
    have haccept : Gives (accept .closeParen) c s none c s := by
      rw [Gives, run_accept, if_neg (by simp [hcomma])]
    exact haccept.bind (gives_pure _)
  have hrequire : Gives (require .comma .commaOrCloseRequired) c s c.current c.advance s := by
    rw [Gives, run_require _ (by decide), if_pos hcomma]
  refine mem_inFlight_of_rest hclose (mem_inFlight_of_rest hrequire
    (mem_inFlight_of_rest hahead ?_))
  exact mem_inFlight_of_first (fun _ => within_pure _) (mem_inFlight_kernelValue hkind he)

/-- A value behind a comma or without one. -/
theorem mem_inFlight_boundValue {values : List (Token × Entity)} {more : Bool}
    (hskip : Gives (skip .comma) c s more c' s') (hmore : c'.hasMore = true)
    (hkind : c'.current.kind ≠ .constant) (he : e ∈ (evaluate.run c' s').2.inFlight) :
    e ∈ ((boundValue values).run c s).2.inFlight := by
  have hhasMore : Gives hasMore c' s' true c' s' := by
    rw [← hmore]
    rfl
  refine mem_inFlight_of_rest hskip (mem_inFlight_of_rest hhasMore ?_)
  exact mem_inFlight_of_first (fun _ => within_pure _) (mem_inFlight_kernelValue hkind he)

end Expressions

/-- **What an expression of a line leaves in flight** stays so to the end of the line, whether or
not the line fails further on. -/
theorem Evaluates.mem_inFlight (h : Evaluates c s c' s') (runner : ScriptRunner)
    (he : e ∈ (evaluate.run c' s').2.inFlight) :
    e ∈ ((execute runner).run c s).2.inFlight := by
  have hlaunch : ∀ plan : LaunchPlan, Within (Retains fun _ => True) (do
      Action.atSpan (Action.drive plan.call) plan.token.span
      awaitLaunch plan.rest.values
      return Outcome.good) :=
    within_launched (allows_retains (by decide) (.inr ⟨by decide, by decide⟩))
  -- What comes behind the expression takes nothing away, whether or not it goes through.
  cases h with
  | assigned hequal htarget =>
    have hadvance : ∀ c s, Gives advance c s () c.advance s := fun _ _ => rfl
    have hf : c.current.kind ≠ .finish := fun h => by
      simp [Cursor.next, Cursor.hasMore, h, Token.asInvalid] at hequal
    have hi : c.current.kind ≠ .invalid := fun h => by
      simp [Cursor.next, Cursor.hasMore, h, Token.asInvalid] at hequal
    rw [run_execute_of_valid runner hf hi, if_pos hequal]
    refine mem_inFlight_of_rest htarget (mem_inFlight_of_rest (hadvance _ _) ?_)
    exact mem_inFlight_of_first (within_assigned (fun _ _ h => h.retains)
      fun _ _ _ _ _ he _ => he) he
  | @operand command hcommand hoperands =>
    have hcurrent : Gives current c.advance s c.advance.current c.advance s := rfl
    have hoperand := mem_inFlight_kernelOperand he
    rw [run_execute_of_command runner hcommand]
    rcases hoperands with rfl | rfl | rfl
    · refine mem_inFlight_of_rest hcurrent
        (mem_inFlight_of_first (fun e => ?_) (mem_inFlight_evaluateKept he))
      exact within_saved (fun _ _ h => h.retains) (fun _ _ _ he _ => he) _ e
    · refine mem_inFlight_of_first hlaunch (mem_inFlight_of_first (fun k => ?_) hoperand)
      exact (within_launchOf k.1 k.2).mono fun _ _ h => h.retains
    · refine mem_inFlight_of_first (fun k => ?_) hoperand
      exact (within_bindArgumentsOf k.2).mono fun _ _ h => h.retains
  | @launched k opening globalSize found _ _ _ c₄ _ _ _ _ hcommand hkernel hopening hsize hloop
      hcomma hahead hkind =>
    have hitem : e ∈ ((launchItem globalSize found).run c₄ s').2.inFlight :=
      mem_inFlight_launchItem hcomma hahead hkind he
    have hitems := mem_inFlight_loop (fun found =>
      (within_launchItem (R := Spares) globalSize found).mono fun _ _ h => h.retains) hitem
    rw [← hloop.run_loop] at hitems
    rw [run_execute_of_command runner hcommand]
    refine mem_inFlight_of_first hlaunch (mem_inFlight_of_rest hkernel
      (mem_inFlight_of_rest hopening (mem_inFlight_of_rest hsize ?_)))
    exact mem_inFlight_of_first (fun rest => (within_preparedLaunch k.1 k.2 globalSize rest).mono
      fun _ _ h => h.retains) hitems
  | @bound k _ _ first values _ _ _ c₄ _ _ _ _ s₄ _ hcommand hkernel hskip hfirst hloop hskip' hmore
      hkind =>
    have hitem : e ∈ ((boundValue values).run c₄ s₄).2.inFlight :=
      mem_inFlight_boundValue hskip' hmore hkind he
    have hitems := mem_inFlight_loop (fun values =>
      (within_boundValue (R := Spares) values).mono fun _ _ h => h.retains) hitem
    rw [← hloop.run_loop] at hitems
    rw [run_execute_of_command runner hcommand]
    refine mem_inFlight_of_rest hkernel (mem_inFlight_of_rest hskip
      (mem_inFlight_of_rest hfirst ?_))
    exact mem_inFlight_of_first (fun values => (within_boundArguments k.2 first.1 values).mono
      fun _ _ h => h.retains) hitems

theorem within_blocking_launch (plan : LaunchPlan) :
    Action.Within State.SameBlocking plan.call :=
  (tries_enqueueKernel _ _ _).within fun d _ d' h => by
    obtain ⟨k, arguments, -, -, rfl⟩ := h
    rfl

/-- **The arguments of a launch** are in flight behind a `run` that goes through, where the driver
does not wait. -/
theorem mem_inFlight_of_launched {plan : LaunchPlan} {c₁ c₂ : Cursor} {s₁ s₂ : Session}
    {runner : ScriptRunner} {o : Outcome} (hs : s.blocking? = some false)
    (hcommand : command? c = some .run)
    (hplan : Gives prepareLaunch c.advance s plan c₁ s₁)
    (hrun : Gives (execute runner) c s o c₂ s₂) (he : e ∈ plan.rest.values.map Prod.snd) :
    e ∈ s₂.inFlight := by
  have hperform : Gives run c.advance s o c₂ s₂ := by
    rwa [Gives, run_execute_of_command runner hcommand] at hrun
  unfold run at hperform
  obtain ⟨plan', c₁', s₁', hplan', hrest⟩ := hperform.exists_of_bind
  cases hplan.symm.trans hplan'
  obtain ⟨_, c₃, s₃, hlaunch, hrest⟩ := hrest.exists_of_bind
  obtain ⟨_, c₄, s₄, hawait, hrest⟩ := hrest.exists_of_bind
  cases hrest
  -- Neither the preparation nor the launch changes whether the driver waits.
  have hprepared := (hplan.within within_prepareLaunch).blocking?_eq
  have hlaunched := hlaunch.within (within_liftM
    (Action.within_atSpan (Action.within_blocking_drive (within_blocking_launch plan)) _))
  obtain ⟨d, hd, hb⟩ := Option.map_eq_some_iff.1 (hlaunched.flag.trans (hprepared.trans hs))
  unfold awaitLaunch Gives at hawait
  rw [run_bind, gives_activeDriver hd] at hawait
  dsimp only at hawait
  rw [hb] at hawait
  cases hawait
  exact List.mem_append_right _ he

/-! ## Changes of driver and of selection -/

/-- What `load` comes to before it tells of it: a new driver is in use. It gives what there is to
tell and how many bindings were taken away. -/
def loaded : Reading (String × Nat) := do
  let (name, t) ← libraryArgument
  warnTrailing .load
  match findLibrary name with
  | .error e => throw (libraryFailure e t)
  | .ok () => do
    let (cleared, s) := (← session).setDriver
    change fun _ => s
    return (loadedText name, cleared)

/-- What `select` comes to before it tells of it, where it says what to select: that is selected,
and the objects of the device are let go. -/
def selected : Reading (String × Nat) := do
  let target ← choice "選択対象" SelectionTarget.name SelectionTarget.all
  let (index, t) ← sizeArgument "番号"
  warnTrailing .select
  let _ ← Action.activeDriver
  Action.atSpan (Action.drive (target.select index)) t.span
  let (cleared, s) := (← session).invalidate
  change fun _ => s
  return (selectedText target index, cleared)

/-- Tells of a change. -/
def announced (told : String × Nat) : Reading Outcome := do
  Action.note told.1
  noteCleared told.2
  return .good

theorem load_eq : load = loaded >>= announced := by
  unfold load loaded
  simp only [bind_assoc]
  refine bind_congr fun library => bind_congr fun _ => ?_
  cases findLibrary library.1 <;> rfl

theorem changeSelection_eq : changeSelection = selected >>= announced := by
  unfold changeSelection selected
  simp only [bind_assoc]
  rfl

/-- **A change is made**: executing what is ahead, a new driver is in use or something else is
selected in a session, of which nothing has been told yet. -/
inductive Switches (c : Cursor) (s : Session) : Session → Prop
  | loaded {told : String × Nat} {c' : Cursor} {s' : Session} : command? c = some .load →
      Gives loaded c.advance s told c' s' → Switches c s s'
  | selected {told : String × Nat} {c' : Cursor} {s' : Session} : command? c = some .select →
      c.advance.hasMore = true → Gives selected c.advance s told c' s' → Switches c s s'

/-! ## A command that fails -/

/-- Where a note fails, it is because the output takes nothing. -/
theorem noteLost_of_note {text : String} {f : Failure}
    (h : (Action.note text).run.run s = (.error f, s')) : s.NoteLost f := by
  unfold Action.note at h
  rw [Action.run_get_bind] at h
  by_cases hv : s.options.verbose = true
  · rw [if_pos hv] at h
    unfold Action.say Action.print at h
    rw [Action.run_get_bind] at h
    have hne : text ++ "\n" ≠ "" := by simp
    rcases s.out.write_cases hne with ⟨-, hw⟩ | ⟨why, hb, hw⟩
    · rw [hw] at h
      cases h
    · rw [hw] at h
      cases h
      exact ⟨hv, why, hb, rfl⟩
  · rw [if_neg hv] at h
    cases h

theorem noteLost_of_noteCleared {count : Nat} {f : Failure}
    (h : (noteCleared count).run c s = ((.error f, c'), s')) : s.NoteLost f := by
  unfold noteCleared at h
  by_cases hcount : count ≠ 0
  · rw [if_pos hcount, run_liftM] at h
    rcases hn : (Action.note s!"ドライバオブジェクト {count} 個を解放しました").run.run s with ⟨g | u, s₁⟩
    · rw [hn] at h
      cases h
      exact noteLost_of_note hn
    · rw [hn] at h
      cases h
  · rw [if_neg hcount] at h
    cases h

/-- To tell of a change fails only for lack of a working output. -/
theorem noteLost_of_announced {told : String × Nat} {f : Failure}
    (h : (announced told).run c s = ((.error f, c'), s')) : s.NoteLost f := by
  unfold announced at h
  rw [run_bind, run_liftM] at h
  have hcalm := Action.within_note (R := Session.Calm) told.1 s
  rcases hn : (Action.note told.1).run.run s with ⟨g | u, s₁⟩
  · rw [hn] at h
    cases h
    exact noteLost_of_note hn
  · -- A note that was made leaves the output as it is: the second one is lost in the same way.
    rw [hn] at h hcalm
    dsimp only at h
    rw [run_bind] at h
    rcases hc : (noteCleared told.2).run c s₁ with ⟨⟨g | v, c₁⟩, s₂⟩
    · rw [hc] at h
      cases h
      exact hcalm.noteLost_iff.1 (noteLost_of_noteCleared hc)
    · rw [hc] at h
      cases h

/-- What leaves a session calm keeps it so on either way out. -/
theorem ensures_calm {α : Type} {r : Reading α} (h : Within Session.Calm r) (s₀ : Session) :
    Ensures s₀.Calm r (fun _ => s₀.Calm) s₀.Calm :=
  h.ensures fun _ _ hs h₀ => Frame.trans h₀ hs

/-- Behind a change of the session nothing is left that can fail. -/
theorem ensures_changed {α : Type} {P E : Session → Prop} (f : Session → Session) (a : α) :
    Ensures P (do change f; return a : Reading α) (fun _ _ => True) E :=
  Ensures.bind (Q := fun _ _ => True) (Ensures.change fun _ _ => trivial) fun _ =>
    Ensures.pure fun _ _ => trivial

/-- Loading fails before anything is taken away. -/
theorem ensures_loaded_calm (s₀ : Session) :
    Ensures s₀.Calm loaded (fun _ _ => True) s₀.Calm := by
  unfold loaded
  refine (ensures_calm within_libraryArgument s₀).bind fun library => ?_
  refine (ensures_calm (within_warnTrailing _) s₀).bind fun _ => ?_
  split
  · exact Ensures.throw fun _ h => h
  · exact Ensures.session_bind fun s _ => ensures_changed _ _

/-- Selecting fails before anything is taken away. -/
theorem ensures_selected_calm (s₀ : Session) :
    Ensures s₀.Calm selected (fun _ _ => True) s₀.Calm := by
  unfold selected
  refine (ensures_calm (within_choice _ _ _) s₀).bind fun target => ?_
  refine (ensures_calm (within_sizeArgument _) s₀).bind fun index => ?_
  refine (ensures_calm (within_warnTrailing _) s₀).bind fun _ => ?_
  refine (ensures_calm (within_liftM Action.within_activeDriver) s₀).bind fun _ => ?_
  refine (ensures_calm (within_liftM (Action.within_atSpan (Action.within_drive
    fun _ _ _ _ => ⟨rfl, rfl, rfl⟩) _)) s₀).bind fun _ => ?_
  exact Ensures.session_bind fun s _ => ensures_changed _ _

/-- A change that fails takes nothing away, unless it was made and just could not be told of. -/
theorem calm_or_lost {r : Reading (String × Nat)} {f : Failure}
    (hr : Ensures s.Calm r (fun _ _ => True) s.Calm)
    (h : (r >>= announced).run c s = ((.error f, c'), s')) :
    s.Calm s' ∨ ∃ told c₁ s₁, Gives r c s told c₁ s₁ ∧ s₁.NoteLost f := by
  have hcalm := hr c s (Frame.refl s)
  rw [run_bind] at h
  rcases hrun : r.run c s with ⟨⟨g | told, c₁⟩, s₁⟩
  · rw [hrun] at h hcalm
    cases h
    exact .inl hcalm
  · rw [hrun] at h
    exact .inr ⟨told, c₁, s₁, hrun, noteLost_of_announced h⟩

/-- **A `load` or `select` that fails** takes nothing away, unless the change was made and just
could not be told of. -/
theorem calm_or_switched (runner : ScriptRunner) {command : Command} {f : Failure}
    (hcommand : command? c = some command) (hswitch : command = .load ∨ command = .select)
    (h : (execute runner).run c s = ((.error f, c'), s')) :
    s.Calm s' ∨ ∃ s₁, Switches c s s₁ ∧ s₁.NoteLost f := by
  rw [run_execute_of_command runner hcommand] at h
  rcases hswitch with rfl | rfl
  · change load.run c.advance s = _ at h
    rw [load_eq] at h
    obtain hcalm | ⟨told, c₁, s₁, hgives, hlost⟩ := calm_or_lost (ensures_loaded_calm s) h
    · exact .inl hcalm
    · exact .inr ⟨s₁, .loaded hcommand hgives, hlost⟩
  · have hahead : hasMore.run c.advance s = ((.ok c.advance.hasMore, c.advance), s) := rfl
    change select.run c.advance s = _ at h
    unfold select at h
    rw [run_bind, hahead] at h
    cases hmore : c.advance.hasMore with
    | false =>
      -- To show what is selected changes nothing.
      have hcalm := (within_showSelection (R := Session.Calm)) c.advance s
      rw [hmore] at h
      change showSelection.run c.advance s = _ at h
      rw [h] at hcalm
      exact .inl hcalm
    | true =>
      rw [hmore] at h
      change changeSelection.run c.advance s = _ at h
      rw [changeSelection_eq] at h
      obtain hcalm | ⟨told, c₁, s₁, hgives, hlost⟩ := calm_or_lost (ensures_selected_calm s) h
      · exact .inl hcalm
      · exact .inr ⟨s₁, .selected hcommand hmore hgives, hlost⟩

/-- Waiting fails before anything is taken away. -/
theorem ensures_wait_calm (s₀ : Session) :
    Ensures s₀.Calm wait (fun _ _ => True) s₀.Calm := by
  unfold wait
  refine (ensures_calm (within_warnTrailing _) s₀).bind fun _ => ?_
  refine (ensures_calm (within_liftM (Action.within_drive fun _ _ _ _ => ⟨rfl, rfl, rfl⟩)) s₀).bind
    fun _ => ?_
  exact ensures_changed _ _

end Statement

end DriverBench
