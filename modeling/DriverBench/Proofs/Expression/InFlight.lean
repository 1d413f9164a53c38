import DriverBench.Proofs.Expression.Spares
import DriverBench.Proofs.Reading.Gives
/-!
# What an expression leaves in flight

Where the driver does not wait for its operations, the source of the bytes of a buffer has to stay
after the buffer was made. Expressions stand inside one another, and the one around a buffer may
still fail: whatever comes of it, the sources of all buffers that were filled on the way
(`Reading.Fills`) are among the objects that operations may still use (`Fills.mem_inFlight`).
-/

namespace DriverBench

open Device Simulator

namespace Session

/-- Whether the driver in use waits for its operations, if there is one. -/
def blocking? (s : Session) : Option Bool :=
  s.driver?.map State.blocking

/-- Of some objects, all that operations may still use stay such. -/
def Retains (p : Entity → Prop) (s s' : Session) : Prop :=
  ∀ e ∈ s.inFlight, p e → e ∈ s'.inFlight

variable {p : Entity → Prop}

instance : TalkFrame (Retains p) where
  refl _ _ he _ := he
  trans h h' e he hp := h' e (h e he hp) hp
  of_talks := by
    rintro s _ ⟨out, err, rfl⟩ e he -
    exact he

theorem Spares.retains {s s' : Session} (h : s.Spares s') : s.Retains p s' := by
  intro e he _
  obtain ⟨es, heq, -⟩ := h.inFlight
  rw [heq]
  exact List.mem_append_left es he

/-- The drivers of two sessions wait alike if they do so one by one. -/
theorem blocking?_eq_of_pairs {R : State → State → Prop} {s s' : Session}
    (hactive : s'.active = s.active) (hfleet : Fleet.Pairs R s.fleet s'.fleet)
    (hR : ∀ d d', R d d' → d'.blocking = d.blocking) : s'.blocking? = s.blocking? := by
  unfold blocking? driver?
  rw [hactive]
  cases s.active with
  | none => rfl
  | some n =>
    rw [Option.bind_some, Option.bind_some]
    have hn := hfleet n
    generalize s.fleet.get? n = o, s'.fleet.get? n = o' at hn ⊢
    cases hn with
    | none => rfl
    | some hd => exact congrArg some (hR _ _ hd)

theorem Spares.blocking?_eq {s s' : Session} (h : s.Spares s') : s'.blocking? = s.blocking? :=
  blocking?_eq_of_pairs h.active h.fleet fun _ _ hd => by
    have hbare := congrArg State.blocking hd.bare
    exact hbare

end Session

namespace Reading

open Session (Spares Builds Retains)

variable {α β : Type} {c c' : Cursor} {s s' : Session} {a : α} {e : Entity}

/-! ## Along a reading -/

/-- What is in flight behind the first part stays so, whatever comes of the rest. -/
theorem mem_inFlight_of_first {r : Reading α} {f : α → Reading β}
    (hf : ∀ a, Within (Retains fun _ => True) (f a)) (h : e ∈ (r.run c s).2.inFlight) :
    e ∈ ((r >>= f).run c s).2.inFlight := by
  rw [run_bind]
  rcases hr : r.run c s with ⟨⟨g | a, c'⟩, s'⟩
  · rw [hr] at h
    exact h
  · rw [hr] at h
    exact hf a c' s' e h trivial

/-- Behind a first part that goes through, it is the rest that counts. -/
theorem mem_inFlight_of_rest {r : Reading α} {f : α → Reading β} (hr : Gives r c s a c' s')
    (h : e ∈ ((f a).run c' s').2.inFlight) : e ∈ ((r >>= f).run c s).2.inFlight := by
  unfold Gives at hr
  rw [run_bind, hr]
  exact h

theorem Within.retains {r : Reading α} (h : Within Builds r) :
    Within (Retains fun _ => True) r :=
  h.mono fun _ _ hs => hs.toSpares.retains

/-! ## The sources of buffers -/

/-- The tokens ahead begin with the word of a derivation and the parenthesis, and the operand that
stands behind them is read as an expression. -/
structure Opens (d : Derivation) (t : Token) (c : Cursor) (s : Session) : Prop where
  word : t.kind = .word
  unbound : s.env.lookup t.text = none
  keyword : Constructor.ofKeyword? t.text = some (.derived d)
  driver : d.needsDriver = true → s.driver?.isSome
  opening : c.advance.current.kind = .openParen
  operand : plain? d c.advance.advance.current.kind = none

/-- **The sources of buffers.** Evaluating the expression that starts with the tokens ahead, a
buffer is filled with the bytes of an object and goes through: it is the expression itself, or one
that stands in it. -/
inductive Fills : List Token → Cursor → Session → Entity → Prop
  | inside {t : Token} {rest : List Token} {c : Cursor} {s : Session} {e : Entity} :
      t.kind = .openParen → Fills rest c.advance s e → Fills (t :: rest) c s e
  | operand {d : Derivation} {t x : Token} {rest : List Token} {c : Cursor} {s : Session}
      {e : Entity} : Opens d t c s → Fills rest c.advance.advance s e → Fills (t :: x :: rest) c s e
  | source {t x : Token} {rest : List Token} {c c' c'' : Cursor} {s s' s'' : Session} {e : Entity}
      {o : Object} : Opens .buffer t c s →
      Gives (evaluateFrom rest) c.advance.advance s e c' s' →
      Gives (filledBuffer c.advance.advance.current e) c' s' o c'' s'' →
      Fills (t :: x :: rest) c s e

/-- A derivation whose operand is an expression evaluates that first. -/
theorem Opens.run_evaluateFrom {d : Derivation} {t : Token} (h : Opens d t c s) (x : Token)
    (rest : List Token) :
    (evaluateFrom (t :: x :: rest)).run c s = (do
      let source ← evaluateFrom rest
      let o ← holding source (derive d c.advance.advance.current source)
      Action.enter o).run c.advance.advance s := by
  -- From the inside out: the parenthesis, what is derived, the constructor, its word.
  have hopen : Gives (openArguments d.keyword) c.advance s () c.advance.advance s := by
    have haccept : Gives (accept .openParen) c.advance s (some c.advance.current)
        c.advance.advance s := by
      rw [Gives, run_accept, if_pos h.opening]
    have hskip : Gives (skip .openParen) c.advance s true c.advance.advance s :=
      haccept.bind (gives_pure _)
    exact hskip.bind (gives_pure _)
  have hderived : (derivedObject d (evaluateFrom rest)).run c.advance.advance s = (do
      let source ← evaluateFrom rest
      holding source (derive d c.advance.advance.current source)).run c.advance.advance s := by
    have hfirst : Gives current c.advance.advance s c.advance.advance.current c.advance.advance s :=
      rfl
    unfold derivedObject
    rw [run_bind, hfirst]
    dsimp only
    rw [h.operand]
  have hconstruct : (construct (.derived d) t (evaluateFrom rest)).run c.advance s =
      (derivedObject d (evaluateFrom rest)).run c.advance.advance s := by
    unfold construct
    dsimp only
    by_cases hd : d.needsDriver = true
    · have hdriver : Gives (requireDriver d.keyword t.span) c.advance s () c.advance s :=
        gives_requireDriver (h.driver hd)
      rw [if_pos hd, run_bind, hdriver]
      dsimp only
      rw [run_bind, Constructor.keyword, hopen]
    · rw [if_neg hd, run_bind, Constructor.keyword, hopen]
  have hword : (evaluateFrom (t :: x :: rest)).run c s =
      (construct (.derived d) t (evaluateFrom rest) >>= fun o => liftM (Action.enter o)).run
        c.advance s := by
    have hadvance : Gives advance c s () c.advance s := rfl
    rw [evaluateFrom.eq_def]
    dsimp only
    rw [h.word]
    dsimp only
    rw [run_bind, hadvance]
    dsimp only
    rw [run_bind, gives_session]
    dsimp only
    rw [h.unbound, h.keyword]
  rw [hword, run_bind, hconstruct, hderived, ← run_bind, bind_assoc]

/-- A buffer that goes through leaves its source in flight, where the driver does not wait. -/
theorem mem_inFlight_filledBuffer {first : Token} {o : Object} (hs : s.blocking? = some false)
    (h : Gives (filledBuffer first e) c s o c' s') : e ∈ s'.inFlight := by
  unfold filledBuffer at h
  split at h
  · cases h
  · obtain ⟨part, c₁, s₁, hpart, h⟩ := h.exists_of_bind
    obtain ⟨_, c₂, s₂, hclose, h⟩ := h.exists_of_bind
    obtain ⟨m, c₃, s₃, hbuffer, h⟩ := h.exists_of_bind
    obtain ⟨_, c₄, s₄, hkeep, h⟩ := h.exists_of_bind
    have hspares : s.Spares s₃ := Frame.trans (hpart.within (within_dataPart _)) <|
      Frame.trans (hclose.within within_closeArguments)
        (hbuffer.within (within_bufferOf _)).toSpares
    obtain ⟨d, hd, hb⟩ := Option.map_eq_some_iff.1 (hspares.blocking?_eq.trans hs)
    unfold keepInFlight Gives at hkeep
    rw [run_bind, gives_activeDriver hd] at hkeep
    dsimp only at hkeep
    rw [hb] at hkeep
    cases hkeep
    cases h
    exact List.mem_append_right _ (List.mem_singleton_self e)

/-- **The sources of all buffers** that an expression fills are in flight behind it, whether or not
it fails further on. -/
theorem Fills.mem_inFlight {ts : List Token} (h : Fills ts c s e) (hs : s.blocking? = some false) :
    e ∈ ((evaluateFrom ts).run c s).2.inFlight := by
  have hrest : ∀ (d : Derivation) first source, Within (Retains fun _ => True) (do
      let o ← holding source (derive d first source)
      Action.enter o) := fun d first source =>
    (within_bind (within_holding (within_derive d first source)) fun o =>
      within_liftM (within_enter o)).retains
  -- By what stands inside what: all that is read around a buffer only adds to what is in flight.
  induction h with
  | @inside t rest c s e hkind _ ih =>
    have hadvance : Gives advance c s () c.advance s := rfl
    rw [evaluateFrom.eq_def]
    dsimp only
    rw [hkind]
    exact mem_inFlight_of_rest hadvance
      (mem_inFlight_of_first (fun e => (within_closed t e).retains) (ih hs))
  | @operand d t x rest c s e hopens _ ih =>
    rw [hopens.run_evaluateFrom]
    exact mem_inFlight_of_first (fun source => hrest d _ source) (ih hs)
  | @source t x rest c c' c'' s s' s'' e o hopens hsource hfilled =>
    have hs' := (hsource.within (within_evaluateFrom rest)).blocking?_eq.trans hs
    have hheld : e ∈ (s''.letGo [e]).inFlight :=
      (Session.builds_letGo s'' [e]).toSpares.retains (p := fun _ => True) e
        (mem_inFlight_filledBuffer hs' hfilled) trivial
    rw [hopens.run_evaluateFrom]
    exact mem_inFlight_of_rest hsource (mem_inFlight_of_rest (hfilled.holding e) hheld)

end Reading

end DriverBench
