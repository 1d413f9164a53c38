import DriverBench.Proofs.Command.Within
/-!
# What no command touches

The journal, the depth of scripts, the codec and the state of the two streams are no matter of a
command: they are the same behind every command but `script`, whether or not it fails.
-/

namespace DriverBench

open Device Simulator

namespace Session

/-- What no command but `script` touches is the same. -/
structure Steady (s s' : Session) : Prop where
  journal : s'.journal = s.journal
  depth : s'.depth = s.depth
  codec : s'.codec = s.codec
  out : s'.out.broken = s.out.broken
  err : s'.err.broken = s.err.broken

instance : TalkFrame Steady where
  refl _ := ⟨rfl, rfl, rfl, rfl, rfl⟩
  trans h h' := ⟨h'.journal.trans h.journal, h'.depth.trans h.depth, h'.codec.trans h.codec,
    h'.out.trans h.out, h'.err.trans h.err⟩
  of_talks := by
    rintro s _ ⟨out, err, rfl⟩
    exact ⟨rfl, rfl, rfl, rfl, rfl⟩

theorem Spares.steady {s s' : Session} (h : s.Spares s') : s.Steady s' :=
  ⟨h.journal, h.depth, h.codec, h.out, h.err⟩

theorem steady_letGo (s : Session) (es : List Entity) : s.Steady (s.letGo es) :=
  (builds_letGo s es).toSpares.steady

theorem steady_dropTemporaries (s : Session) : s.Steady s.dropTemporaries :=
  Frame.trans (R := Steady) (b := { s with temporaries := [] }) ⟨rfl, rfl, rfl, rfl, rfl⟩
    (steady_letGo _ _)

theorem steady_setDriver (s : Session) : s.Steady s.setDriver.2 := by
  obtain ⟨active, fleet, heq⟩ := setDriver_eq s
  rw [heq]
  exact ⟨rfl, rfl, rfl, rfl, rfl⟩

theorem steady_invalidate (s : Session) : s.Steady s.invalidate.2 := by
  obtain ⟨fleet, heq⟩ := invalidate_eq s
  rw [heq]
  exact ⟨rfl, rfl, rfl, rfl, rfl⟩

theorem steady_configure (s : Session) (setting : Setting) (value : Bool) :
    s.Steady (s.configure setting value) := by
  obtain ⟨fleet, heq, -⟩ := configure_eq s setting value
  rw [heq]
  exact ⟨rfl, rfl, rfl, rfl, rfl⟩

theorem steady_unbind {s s' : Session} {names : List String} {count : Nat}
    (hu : s.unbind names = .ok (count, s')) : s.Steady s' := by
  obtain ⟨env, fleet, rfl⟩ := unbind_eq hu
  exact ⟨rfl, rfl, rfl, rfl, rfl⟩

end Session

open Session (Steady Spares)

/-- Whatever is asked of a driver, the session asks for itself. -/
theorem Action.within_steady_drive {α : Type} (c : Call α) : Within Steady (drive c) :=
  within_drive fun _ _ _ _ => ⟨rfl, rfl, rfl, rfl, rfl⟩

namespace Statement

open Reading

theorem within_steady_assignment : Within Steady assignment :=
  within_assignment (fun _ _ h => h.steady) fun _ _ _ _ _ => ⟨rfl, rfl, rfl, rfl, rfl⟩

/-- Whatever a command does is none of what it leaves alone. -/
theorem allows_steady (c : Command) : Session.Allows Steady c := by
  cases c with
  | load => exact Session.steady_setDriver
  | select => exact ⟨fun _ _ => Action.within_steady_drive _, Session.steady_invalidate⟩
  | set => exact Session.steady_configure
  | release => exact fun _ _ _ _ hu => Session.steady_unbind hu
  | save => exact fun _ _ => ⟨rfl, rfl, rfl, rfl, rfl⟩
  | run =>
    exact ⟨fun _ => Action.within_steady_drive _, Action.within_steady_drive _,
      fun _ _ => ⟨rfl, rfl, rfl, rfl, rfl⟩⟩
  | wait =>
    exact ⟨Action.within_steady_drive _, fun s => Frame.trans (R := Steady)
      (b := { s with inFlight := [] }) ⟨rfl, rfl, rfl, rfl, rfl⟩ (Session.steady_letGo _ _)⟩
  | flush => exact Action.within_steady_drive _
  | info | list | script | bind | help | quit => trivial

/-- **Every command but `script`** leaves alone what is no matter of a command. -/
theorem within_steady_perform (runner : ScriptRunner) {c : Command} (hc : c ≠ .script) :
    Within Steady (perform runner c) :=
  within_perform (fun _ _ h => h.steady) runner hc (allows_steady c)

end Statement

end DriverBench
