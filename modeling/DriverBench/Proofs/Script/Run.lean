import DriverBench.Proofs.Reading.Quiet
/-!
# What running a script does to a session

A script is run by its lines, one level deeper than where it was asked for. What every line leads to
the whole script leads to, so the rules here have the form of the two recursions: over the lines of
one script, and over the levels of scripts inside one another.
-/

namespace DriverBench

namespace Action

variable {α : Type} {P E : Session → Prop} {Q : α → Session → Prop}

/-- A step that gives a value and a state and cannot fail. -/
theorem Ensures.modifyGet {f : Session → α × Session} (h : ∀ s, P s → Q (f s).1 (f s).2) :
    Ensures P (modifyGet f : Action α) Q E :=
  fun s hs => h s hs

theorem run_deeper (a : Action α) (s : Session) :
    (deeper a).run.run s =
      ((a.run.run { s with depth := s.depth + 1 }).1,
        { (a.run.run { s with depth := s.depth + 1 }).2 with
          depth := (a.run.run { s with depth := s.depth + 1 }).2.depth - 1 }) :=
  rfl

/-- A script one level deeper, for what does not depend on the depth. -/
theorem Ensures.deeper {a : Action α} (h : Ensures P a Q E)
    (hP : ∀ s n, P s → P { s with depth := n }) (hQ : ∀ x s n, Q x s → Q x { s with depth := n })
    (hE : ∀ s n, E s → E { s with depth := n }) : Ensures P (deeper a) Q E := by
  intro s hs
  have h₁ := h _ (hP s (s.depth + 1) hs)
  rw [run_deeper]
  rcases hr : a.run.run { s with depth := s.depth + 1 } with ⟨x | x, s'⟩
  · rw [hr] at h₁
    exact hE s' _ h₁
  · rw [hr] at h₁
    exact hQ x s' _ h₁

/-- A line of a script is at most printed before it is run. -/
@[simp] theorem within_echo {R : Session → Session → Prop} [Session.TalkFrame R]
    (line : ScriptLine) : Within R (echo line) := by
  unfold echo
  exact within_bind within_get fun s => within_ite (within_say _) (within_pure _)

end Action

end DriverBench
