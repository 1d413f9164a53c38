import DriverBench.Proofs.Command.Balance
import DriverBench.Proofs.Script.Run
/-!
# Sessions that lines lead to

A session is reached from a fresh one by lines, scripts and expressions, in any order and whether or
not they fail. Every such session is in balance: what a driver keeps is what the bindings and the
operations under way refer to.
-/

namespace DriverBench

open Device Simulator

namespace Session

/-- **The sessions that lines lead to.** An object that an expression gave is let go by whoever
asked for it. Between two lines, those of a script included, all that is around the bindings and the
drivers may be another: the options, the depth of scripts, the streams, the files and the journal.
-/
inductive Reached : Session → Prop
  | fresh (codec : Raster.Codec) : Reached { codec }
  | setDriver {s : Session} : Reached s → Reached s.setDriver.2
  | runLine {s : Session} (line : String) : Reached s → Reached (s.runLine line).2
  | execute {s : Session} (line : String) : Reached s → Reached (s.execute line).2
  | runScript {s : Session} (source : String) : Reached s →
      Reached ((DriverBench.runScript source).run.run s).2
  | runScriptFile {s : Session} (path : String) : Reached s → Reached (s.runScriptFile path).2
  | evaluated {s s' : Session} {line : String} {e : Entity} {c : Cursor} : Reached s →
      s.evaluate line = ((.ok e, c), s') → Reached (s'.letGo [e])
  | notEvaluated {s s' : Session} {line : String} {f : Failure} {c : Cursor} : Reached s →
      s.evaluate line = ((.error f, c), s') → Reached s'
  | around {s : Session} (options : Options) (depth : Nat) (out err : Sink) (files : Files.FileTree)
      (codec : Raster.Codec) (journal : List Event) : Reached s →
      Reached { s with options, depth, out, err, files, codec, journal }

/-- A session with a driver behind some lines, for a look at what they come to. Its codec knows no
picture files. -/
def after (lines : List String) : Session :=
  let codec : Raster.Codec := ⟨fun _ => false, fun _ _ => .ok none, fun _ _ _ _ => .ok none⟩
  lines.foldl (fun s line => (s.runLine line).2) ({ codec } : Session).setDriver.2

theorem Reached.runLines {s : Session} (hs : s.Reached) (lines : List String) :
    (lines.foldl (fun s line => (s.runLine line).2) s).Reached := by
  induction lines generalizing s with
  | nil => exact hs
  | cons line rest ih => exact ih (hs.runLine line)

theorem reached_after (lines : List String) : (after lines).Reached :=
  (Reached.fresh _).setDriver.runLines lines

/-- The handles of the objects that are bound or that operations under way may use. -/
def reachable (s : Session) : List Handle :=
  (s.env.values ++ s.inFlight).filterMap (·.object.handle?)

end Session

/-- The session at another depth of scripts. -/
theorem Session.Idle.withDepth {s : Session} (h : s.Idle) (n : Nat) :
    ({ s with depth := n }).Idle :=
  ⟨h.balanced.move rfl rfl fun _ => Iff.rfl, h.temporaries⟩

/-! ## Scripts -/

namespace Statement

open Session (Idle)

theorem keepsIdle_runLines {runner : ScriptRunner} (hr : KeepsIdle runner)
    (lines : List ScriptLine) :
    Action.Ensures Idle (runLines runner lines) (fun _ => Idle) Idle := by
  induction lines with
  | nil => exact Action.Ensures.pure fun _ h => h
  | cons line rest ih =>
    unfold runLines
    refine Action.Ensures.bind ((Action.within_echo line).ensures fun _ _ hk h => Idle.keeps h hk)
      fun _ => ?_
    refine Action.Ensures.bind (Q := fun _ => Idle)
      (Action.Ensures.modifyGet fun s hs => hs.runLineWith hr line.text) fun outcome => ?_
    split
    · exact ih
    · exact Action.Ensures.pure fun _ h => h

/-- A script leads from between two lines to between two lines, however deep it goes. -/
theorem keepsIdle_runScriptWithin (levels : Nat) : KeepsIdle (runScriptWithin levels) := by
  induction levels with
  | zero => exact fun source => Action.Ensures.raise fun _ h => h
  | succ levels ih =>
    exact fun source => (keepsIdle_runLines ih _).deeper (fun _ n h => h.withDepth n)
      (fun _ _ n h => h.withDepth n) fun _ n h => h.withDepth n

theorem keepsIdle_runScript : KeepsIdle runScript := fun source s hs =>
  keepsIdle_runScriptWithin (scriptDepthLimit - s.depth) source s hs

end Statement

namespace Session

open Statement (keepsIdle_runScript)

/-- The object of an expression is let go, and nothing of the expression stays behind. -/
theorem Idle.evaluated {s s' : Session} {line : String} {e : Entity} {c : Cursor} (h : s.Idle)
    (heq : s.evaluate line = ((.ok e, c), s')) : (s'.letGo [e]).Idle := by
  have hb := Reading.denotes_evaluate (Cursor.ofLine line) s h.balanced
  have ht := (Reading.within_evaluate (Cursor.ofLine line) s).temporaries
  unfold Session.evaluate at heq
  rw [heq] at hb ht
  obtain ⟨fleet, hgo, -⟩ := letGo_eq s' [e]
  refine ⟨Balanced.letGo (X := []) (by simpa using hb) (by simp), ?_⟩
  rw [hgo]
  exact ht.trans h.temporaries

theorem Idle.notEvaluated {s s' : Session} {line : String} {f : Failure} {c : Cursor} (h : s.Idle)
    (heq : s.evaluate line = ((.error f, c), s')) : s'.Idle := by
  have hb := Reading.denotes_evaluate (Cursor.ofLine line) s h.balanced
  have ht := (Reading.within_evaluate (Cursor.ofLine line) s).temporaries
  unfold Session.evaluate at heq
  rw [heq] at hb ht
  exact ⟨hb, ht.trans h.temporaries⟩

theorem Idle.runScript {s : Session} (h : s.Idle) (source : String) :
    ((DriverBench.runScript source).run.run s).2.Idle := by
  have hx := keepsIdle_runScript source s h
  rcases hr : (DriverBench.runScript source).run.run s with ⟨f | o, s'⟩ <;>
  · rw [hr] at hx
    exact hx

theorem Idle.runScriptFile {s : Session} (h : s.Idle) (path : String) :
    (s.runScriptFile path).2.Idle := by
  unfold Session.runScriptFile
  cases s.files.readText path with
  | error e => exact h.keeps (keeps_report _ _ _)
  | ok source =>
    have hx := h.runScript source
    dsimp only
    rcases hr : (DriverBench.runScript source).run.run s with ⟨f | o, s'⟩
    · rw [hr] at hx
      exact Idle.keeps hx (keeps_report _ _ _)
    · rw [hr] at hx
      exact hx

/-- **Every session that lines lead to** is in balance, and holds nothing for a line. -/
theorem Reached.idle {s : Session} (h : s.Reached) : s.Idle := by
  induction h with
  | fresh codec =>
    refine ⟨⟨fun k => ?_, fun k hk => ?_, fun n d hd => ?_⟩, rfl⟩
    · cases hi : k.issuer <;>
        simp [Fleet.kept?, hi, Fleet.get?, mem_handles, held, Environment.values]
    · cases hi : k.issuer <;> simp [Fleet.kept?, hi, Fleet.get?] at hk
    · cases hd
  | setDriver _ ih => exact ih.setDriver
  | runLine line _ ih => exact ih.runLineWith keepsIdle_runScript line
  | execute line _ ih => exact ih.executeWith keepsIdle_runScript line
  | runScript source _ ih => exact ih.runScript source
  | runScriptFile path _ ih => exact ih.runScriptFile path
  | evaluated _ heq ih => exact ih.evaluated heq
  | notEvaluated _ heq ih => exact ih.notEvaluated heq
  | around options depth out err files codec journal _ ih =>
    exact ⟨ih.balanced.move rfl rfl fun _ => Iff.rfl, ih.temporaries⟩

/-! ## What the drivers keep -/

theorem Idle.handles_eq {s : Session} (h : s.Idle) : s.handles = s.reachable := by
  rw [handles, held, h.temporaries, List.append_nil, reachable]

/-- **No leak and no early release.** Between two lines the driver in use keeps memories, programs
and kernels under just the ids that objects of those kinds have which are bound or which operations
under way may use; and a driver that is not in use any more keeps nothing at all. -/
theorem Reached.contains_iff_reachable {s : Session} (hs : s.Reached) {d : State}
    (hd : s.driver? = some d) :
    (∀ id, d.memories.contains id = true ↔
      ∃ h ∈ s.reachable, h.id = id ∧ (h.kind = .buffer ∨ h.kind = .image)) ∧
    (∀ id, d.programs.contains id = true ↔ ∃ h ∈ s.reachable, h.id = id ∧ h.kind = .program) ∧
    (∀ id, d.kernels.contains id = true ↔ ∃ h ∈ s.reachable, h.id = id ∧ h.kind = .kernel) ∧
    ∀ n d', s.fleet.get? n = some d' → s.active ≠ some n → d'.liveCount = 0 := by
  obtain ⟨n, hn, hget⟩ := exists_of_driver? hd
  have hlive := hs.idle.balanced.isSome_lookup_iff_of_active hn hget
  rw [hs.idle.handles_eq] at hlive
  refine ⟨fun id => ?_, fun id => ?_, fun id => ?_, fun m d' hm hne => ?_⟩
  · rw [hs.idle.balanced.contains_memory_iff hd, hs.idle.handles_eq]
  · have h := hlive .program id
    rw [State.lookup, Option.isSome_map] at h
    refine h.trans (exists_congr fun k => and_congr_right fun _ => and_congr_right fun _ => ?_)
    cases k.kind <;> simp [HandleKind.table]
  · have h := hlive .kernel id
    rw [State.lookup, Option.isSome_map] at h
    refine h.trans (exists_congr fun k => and_congr_right fun _ => and_congr_right fun _ => ?_)
    cases k.kind <;> simp [HandleKind.table]
  · refine State.liveCount_eq_zero fun kind id => ?_
    rw [hs.idle.balanced.isSome_lookup_iff hm]
    rintro ⟨k, hk, hi, -, -⟩
    exact hne ((hs.idle.balanced.issuer_eq hk).symm.trans hi)

/-- One buffer under two names, of which one is released, and behind it a line that clones the
buffer and fails: the buffer is kept, and the clone is not. -/
theorem contains_after_release_and_failure :
    ∃ d, (after ["b = buffer(16)", "c = b", "release b", "k = kernel(clone(c), f)"]).driver? =
        some d ∧
      d.memories.contains 1 = true ∧ d.memories.contains 2 = false := by
  have hd : (after ["b = buffer(16)", "c = b", "release b",
      "k = kernel(clone(c), f)"]).driver?.isSome := by decide +kernel
  have hreach : (after ["b = buffer(16)", "c = b", "release b",
      "k = kernel(clone(c), f)"]).reachable = [⟨1, .buffer, some 0⟩] := by decide +kernel
  obtain ⟨d, hd⟩ := Option.isSome_iff_exists.1 hd
  have h := (reached_after _).contains_iff_reachable hd
  rw [hreach] at h
  refine ⟨d, hd, (h.1 1).2 (by simp), ?_⟩
  rw [Bool.eq_false_iff, Ne, h.1 2]
  simp

end Session

end DriverBench
