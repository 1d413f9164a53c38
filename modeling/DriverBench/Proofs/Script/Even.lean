import DriverBench.Proofs.Command.Even
import DriverBench.Proofs.Session.Reached
/-!
# Lines and scripts come to the same in near sessions

A line that is run in two near sessions comes to the same outcome and leaves near sessions behind,
and so does a script, line by line and level by level. The journals stay the same: the same lines
are run at the same depths, and the same failures are reported.
-/

namespace DriverBench

open Device Simulator
open Session (Near Idle)
open Statement (RunsEven KeepsIdle)

namespace Session

variable {s s' : Session} {runner : ScriptRunner}

theorem Near.executeWith (h : s.Near s') (hr : RunsEven runner) (hi : s.Idle) (hi' : s'.Idle)
    (line : String) :
    (executeWith runner line s').1 = (executeWith runner line s).1 ∧
      (executeWith runner line s).2.Near (executeWith runner line s').2 := by
  obtain ⟨hanswer, hnear⟩ :=
    Statement.evenFrom_execute hr (Cursor.ofLine line) s s' h hi hi'
  have hfailure := congrArg Prod.fst hanswer
  exact ⟨hfailure, hnear.dropTemporaries⟩

theorem Idle.note (hi : s.Idle) (e : Event) : (s.note e).Idle :=
  hi.keeps (keeps_note s e)

theorem Near.runLineWith (h : s.Near s') (hr : RunsEven runner) (hi : s.Idle) (hi' : s'.Idle)
    (line : String) :
    (runLineWith runner line s').1 = (runLineWith runner line s).1 ∧
      (runLineWith runner line s).2.Near (runLineWith runner line s').2 := by
  have hnote : (s.note (.ran s.depth line)).Near (s'.note (.ran s'.depth line)) := by
    rw [h.depth]
    exact h.note _
  obtain ⟨hanswer, hnear⟩ := hnote.executeWith hr (hi.note _) (hi'.note _) line
  unfold Session.runLineWith
  dsimp only
  rcases hx : Session.executeWith runner line (s.note (.ran s.depth line)) with ⟨f | o, t⟩ <;>
    rcases hx' : Session.executeWith runner line (s'.note (.ran s'.depth line)) with
      ⟨f' | o', t'⟩ <;>
    rw [hx, hx'] at hanswer hnear <;> cases hanswer
  · exact ⟨rfl, hnear.report line f⟩
  · exact ⟨rfl, hnear⟩

end Session

/-! ## Scripts -/

namespace Action

/-- A line of a script is printed on both sides, on one or on neither. -/
theorem even_echo (line : ScriptLine) : Even Near (echo line) := by
  have hprint : Ensures Session.Unbroken (echo line) (fun _ => Session.Unbroken)
      (fun _ => False) := by
    have hget : Ensures Session.Unbroken (get : Action Session) (fun _ => Session.Unbroken)
        (fun _ => False) := fun _ h => h
    unfold echo
    refine hget.bind fun s => ?_
    split
    · exact Reading.ensures_print _
    · exact Ensures.pure fun _ h => h
  exact parallel_of_talks (within_echo line) (within_echo line) hprint hprint

theorem EvenFrom.deeper {α : Type} {a : Action α} (h : EvenFrom Near Idle a) :
    EvenFrom Near Idle (deeper a) := by
  intro s s' hs hi hi'
  have hdeep := hs.withDepth (congrArg (· + 1) hs.depth)
  obtain ⟨hanswer, hnear⟩ := h _ _ hdeep (hi.withDepth _) (hi'.withDepth _)
  rw [run_deeper, run_deeper]
  exact ⟨hanswer, hnear.withDepth (congrArg (· - 1) hnear.depth)⟩

end Action

namespace Statement

open DriverBench.Action (EvenFrom)

variable {runner : ScriptRunner}

theorem evenFrom_runLine (hr : RunsEven runner) (line : String) :
    EvenFrom Near Idle (modifyGet (Session.runLineWith runner line) : Action Outcome) := by
  intro s s' h hi hi'
  obtain ⟨houtcome, hnear⟩ := h.runLineWith hr hi hi' line
  exact ⟨congrArg Except.ok houtcome, hnear⟩

theorem evenFrom_runLines (hr : RunsEven runner) (hk : KeepsIdle runner)
    (lines : List ScriptLine) : EvenFrom Near Idle (runLines runner lines) := by
  induction lines with
  | nil => exact (Action.even_pure _).from
  | cons line rest ih =>
    unfold runLines
    have hecho : Action.Ensures Idle (echo line) (fun _ => Idle) Idle :=
      (Action.within_echo line).ensures fun _ _ hs h => Idle.keeps h hs
    refine EvenFrom.bind (Action.even_echo line).from hecho fun _ => ?_
    refine EvenFrom.bind (Q := fun _ => Idle) (E := Idle) (evenFrom_runLine hr line.text)
      (Action.Ensures.modifyGet fun s hs => hs.runLineWith hk line.text) fun outcome => ?_
    split
    · exact ih
    · exact (Action.even_pure _).from

theorem runsEven_runScriptWithin (levels : Nat) : RunsEven (runScriptWithin levels) := by
  -- By the levels that are left, as everything about scripts.
  induction levels with
  | zero => exact fun source => (Action.even_raise _).from
  | succ levels ih =>
    exact fun source => EvenFrom.deeper
      (evenFrom_runLines ih (keepsIdle_runScriptWithin levels) _)

/-- **A script** comes to the same in near sessions between two lines. -/
theorem runsEven_runScript : RunsEven runScript := by
  intro source
  refine Action.Parallel.get_bind fun s s' h _ _ => ?_
  rw [h.depth]
  exact runsEven_runScriptWithin _ source

end Statement

namespace Session

open Statement (runsEven_runScript)

variable {s s' : Session}

/-- **A line** comes to the same in near sessions between two lines. -/
theorem Near.runLine (h : s.Near s') (hi : s.Idle) (hi' : s'.Idle) (line : String) :
    (s'.runLine line).1 = (s.runLine line).1 ∧ (s.runLine line).2.Near (s'.runLine line).2 :=
  h.runLineWith runsEven_runScript hi hi' line

theorem Near.runScriptFile (h : s.Near s') (hi : s.Idle) (hi' : s'.Idle) (path : String) :
    (s'.runScriptFile path).1 = (s.runScriptFile path).1 ∧
      (s.runScriptFile path).2.Near (s'.runScriptFile path).2 := by
  unfold Session.runScriptFile
  rw [h.files]
  cases s.files.readText path with
  | error e => exact ⟨rfl, h.report _ _⟩
  | ok source =>
    dsimp only
    rcases hr : (runScript source).run.run s with ⟨f | o, t⟩ <;>
      obtain ⟨t', hr', hnear⟩ := (runsEven_runScript source).run_eq h hi hi' hr <;> rw [hr']
    · exact ⟨rfl, hnear.report _ _⟩
    · exact ⟨rfl, hnear⟩

end Session

end DriverBench
