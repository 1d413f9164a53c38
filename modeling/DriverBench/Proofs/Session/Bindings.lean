import DriverBench.Proofs.Environment.OrderedMap
import DriverBench.Proofs.Session.Lines
/-!
# What lines do with the bindings

Beside an assignment, which adds one binding, lines only ever take bindings away. What is a matter
of the bindings alone (`Session.OfBindings`) and outlives that some are taken away is therefore
preserved by every line as soon as assignments preserve it.
-/

namespace DriverBench

open Device Simulator

namespace Session

variable {s s' : Session} {names : List String} {Q : Environment Entity → Prop}

/-- What is unbound is what is listed, if all of that is bound. -/
theorem env_of_unbind {count : Nat} (hu : s.unbind names = .ok (count, s')) :
    s'.env = s.env.keep fun b => !names.contains b.1 := by
  obtain ⟨fleet, heq, -⟩ := letGo_eq { s with env := s.env.keep fun b => !names.contains b.1 }
    ((s.env.bindings.filter fun b => names.contains b.1).map Prod.snd)
  exact congrArg Session.env ((eq_letGo_of_unbind hu).trans heq)

/-- Something holds of the bindings of a session. -/
def OfBindings (Q : Environment Entity → Prop) (s : Session) : Prop :=
  Q s.env

theorem OfBindings.of_env (h : s.OfBindings Q) (henv : s'.env = s.env) : s'.OfBindings Q := by
  rwa [OfBindings, henv]

theorem OfBindings.of_keep {p : String × Entity → Bool} (hkeep : ∀ env p, Q env → Q (env.keep p))
    (h : s.OfBindings Q) (henv : s'.env = s.env.keep p) : s'.OfBindings Q := by
  rw [OfBindings, henv]
  exact hkeep _ p h

instance : TalkFrame (Preserves (OfBindings Q)) where
  refl _ h := h
  trans h h' hs := h' (h hs)
  of_talks := by
    rintro s _ ⟨out, err, rfl⟩ h
    exact h

theorem preserves_ofBindings_drive {α : Type} (c : Call α) :
    Action.Within (Preserves (OfBindings Q)) (Action.drive c) :=
  Action.within_drive fun _ _ _ _ h => h

/-- A command takes bindings away, or has nothing to do with them. -/
theorem allows_ofBindings (hkeep : ∀ env p, Q env → Q (env.keep p)) (command : Command) :
    Allows (Preserves (OfBindings Q)) command := by
  cases command with
  | load =>
    intro s hs
    obtain ⟨active, fleet, heq⟩ := setDriver_eq s
    exact hs.of_keep hkeep (congrArg Session.env heq)
  | select =>
    refine ⟨fun _ _ => preserves_ofBindings_drive _, fun s hs => ?_⟩
    obtain ⟨fleet, heq⟩ := invalidate_eq s
    exact hs.of_keep hkeep (congrArg Session.env heq)
  | set =>
    intro s setting value hs
    obtain ⟨fleet, heq, -⟩ := configure_eq s setting value
    exact hs.of_env (by rw [heq])
  | release => exact fun s s' names count hu hs => hs.of_keep hkeep (env_of_unbind hu)
  | save => exact fun _ _ hs => hs
  | run =>
    exact ⟨fun _ => preserves_ofBindings_drive _, preserves_ofBindings_drive _, fun _ _ hs => hs⟩
  | wait =>
    refine ⟨preserves_ofBindings_drive _, fun s hs => ?_⟩
    exact OfBindings.of_env (s := { s with inFlight := [] }) hs (builds_letGo _ _).env
  | flush => exact preserves_ofBindings_drive _
  | info | list | script | bind | help | quit => trivial

/-- **Every line preserves** what outlives that bindings are taken away, if assignments do. -/
theorem lines_ofBindings (hkeep : ∀ env p, Q env → Q (env.keep p))
    (hassign : ∀ line, ∀ s : Session, s.OfBindings Q →
      (Statement.assignment.run (Cursor.ofLine line) s).2.OfBindings Q) :
    Lines (Preserves (OfBindings Q)) where
  spares _ _ h hs := hs.of_env h.env
  assignment := hassign
  allows := allows_ofBindings hkeep
  journal _ _ hs := hs
  depth _ _ hs := hs

/-- What lines preserve of the bindings holds wherever they lead to, if it holds of no bindings. -/
theorem Reached.ofBindings (hs : s.Reached) (h : Lines (Preserves (OfBindings Q)))
    (hfresh : Q {}) : Q s.env :=
  hs.preserves h (fun _ => hfresh) fun _ _ _ _ _ _ _ _ hs => hs

end Session

end DriverBench
