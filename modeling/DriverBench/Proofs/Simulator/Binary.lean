import DriverBench.Proofs.Simulator.Request
import DriverBench.Proofs.Text.Utf8
/-!
# A program is as good as its binary

The binary of a built program holds its source and nothing else. A program that is made from it has
the same source again, and so it builds, has the same binary and declares the same kernels. What
makes the way there and back exact is that the source survives as bytes, that it is not blank, and
that the kernels of a built program are those of its source.
-/

namespace DriverBench.Simulator

open Device

/-- The binary that a program of a source has. -/
def binaryOf (source : String) : List UInt8 :=
  binaryMagic ++ Text.bytesOf source

theorem afterMagic?_append (body : List UInt8) : afterMagic? (binaryMagic ++ body) = some body := by
  unfold afterMagic?
  rw [if_pos (List.isPrefixOf_iff_prefix.2 (List.prefix_append _ _)), List.drop_left]

theorem afterMagic?_eq_none {binary : List UInt8} (h : ¬ binaryMagic <+: binary) :
    afterMagic? binary = none :=
  if_neg fun hfront => h (List.isPrefixOf_iff_prefix.1 hfront)

namespace State

/-- Under a handle there is a program of a source that was built. -/
def Built (d : State) (program : Handle) (source : String) : Prop :=
  ∃ p, d.programs.get? program.id = some p ∧ p.built = true ∧ p.source = source

/-- The kernel of a name can be created, and it has so many slots. -/
def MakesKernel (d : State) (program : Handle) (name : String) (slots : Nat) : Prop :=
  ∃ answer d' k, (createKernel program name).Gives d answer d' ∧
    d'.kernels.get? answer.1.id = some k ∧ k.slots.length = slots

theorem get?_add_program (d : State) (p : Program) (k : Nat) :
    (d.add (.program p)).programs.get? k =
      if k = d.lastId + 1 then some p else d.programs.get? k :=
  Table.get?_insert _ _ _ _

theorem get?_add_kernel (d : State) (x : Kernel) (k : Nat) :
    (d.add (.kernel x)).kernels.get? k = if k = d.lastId + 1 then some x else d.kernels.get? k :=
  Table.get?_insert _ _ _ _

/-- A program is built once it is noted to be. -/
theorem built_of_note {d : State} {program : Handle} {p : Program}
    (hp : d.programs.get? program.id = some p) :
    State.Built { d with programs := d.programs.modify program.id fun p =>
      { p with built := true, signatures := declarations p.source } } program p.source := by
  refine ⟨{ p with built := true, signatures := declarations p.source }, ?_, rfl, rfl⟩
  dsimp only
  rw [Table.get?_modify, if_pos rfl, hp, Option.map_some]

end State

/-! ## Calls that go through -/

section Gives

variable {d : State}

theorem gives_createProgram {source : String} (h : ¬ source.toList.all Text.isWhiteSpace) :
    (createProgram source).Gives d (d.nextHandle .program) (d.add (.program { source })) := by
  unfold Call.Gives createProgram
  rw [if_neg h]
  rfl

/-- A binary makes a program of its source. -/
theorem gives_createProgramBinary {source : String} (h : ¬ source.toList.all Text.isWhiteSpace) :
    (createProgramBinary (binaryOf source)).Gives d (d.nextHandle .program)
      (d.add (.program { source })) := by
  unfold Call.Gives createProgramBinary binaryOf
  rw [afterMagic?_append]
  change (createProgram _).run.run d = _
  rw [Text.decodeLenient_bytesOf]
  exact gives_createProgram h

/-- What does not begin with the magic line makes no program. -/
theorem run_createProgramBinary_of_none {binary : List UInt8} (h : ¬ binaryMagic <+: binary) :
    (createProgramBinary binary).run.run d =
      (.error (.returned "clCreateProgramWithBinary" .invalidBinary), d) := by
  unfold createProgramBinary
  rw [afterMagic?_eq_none h]
  rfl

theorem gives_programBinary {program : Handle} {source : String} (h : d.Built program source) :
    (programBinary program).Gives d (binaryOf source) d := by
  obtain ⟨p, hp, hbuilt, rfl⟩ := h
  unfold Call.Gives programBinary
  rw [Action.run_get_bind, hp]
  change (if !p.built then _ else _ : Call (List UInt8)).run.run d = _
  rw [hbuilt]
  rfl

/-- A program that has a binary was built. -/
theorem built_of_programBinary {program : Handle} {binary : List UInt8} {d' : State}
    (h : (programBinary program).Gives d binary d') :
    ∃ source, d.Built program source ∧ binary = binaryOf source := by
  obtain ⟨⟨p, hp, hbuilt, rfl⟩, -⟩ := (looks_programBinary program).of_gives h
  exact ⟨p.source, ⟨p, hp, hbuilt, rfl⟩, rfl⟩

theorem gives_createKernel {program : Handle} {name : String} {p : Program} {signature : Signature}
    (hp : d.programs.get? program.id = some p) (hbuilt : p.built = true)
    (hfind : p.signatures.find? (·.name == name) = some signature) :
    (createKernel program name).Gives d (d.nextHandle .kernel, name)
      (d.add (.kernel ⟨name, List.replicate signature.parameters none⟩)) := by
  unfold Call.Gives createKernel
  rw [Action.run_get_bind, hp]
  change (if !p.built then _ else _ : Call (Handle × String)).run.run d = _
  rw [hbuilt]
  change (orFail (p.signatures.find? _) _ _ >>= _ : Call (Handle × String)).run.run d = _
  rw [hfind]
  rfl

end Gives

/-! ## Building -/

/-- **A build** that goes through leaves a program that is built. -/
theorem built_of_buildProgram {d d' : State} {program : Handle} {options : String}
    (h : (buildProgram program options).Gives d () d') :
    ∃ p, d.programs.get? program.id = some p ∧ errorLines p.source = [] ∧
      d'.Built program p.source := by
  unfold Call.Gives at h
  cases hp : d.programs.get? program.id with
  | none =>
    rw [run_buildProgram_of_none hp] at h
    cases (Prod.mk.inj h).1
  | some p =>
    rw [run_buildProgram hp] at h
    by_cases herrors : errorLines p.source = []
    · rw [if_pos herrors] at h
      obtain ⟨-, rfl⟩ := Prod.mk.inj h
      exact ⟨p, rfl, herrors, State.built_of_note hp⟩
    · rw [if_neg herrors] at h
      cases (Prod.mk.inj h).1

/-- The kernels of a built program are those that its source declares. -/
theorem makesKernel_iff {d : State} (hd : d.Sound) {program : Handle} {source : String}
    (h : d.Built program source) (name : String) (slots : Nat) :
    d.MakesKernel program name slots ↔ ∃ signature,
      (declarations source).find? (·.name == name) = some signature ∧
        signature.parameters = slots := by
  obtain ⟨p, hp, hbuilt, rfl⟩ := h
  have hdeclared := (hd.program _ _ hp).declared hbuilt
  constructor
  · rintro ⟨answer, d', k, hgives, hk, rfl⟩
    obtain ⟨p', signature, hp', -, hfind, rfl, hanswer⟩ := (tries_createKernel _ _).of_gives hgives
    obtain rfl : p = p' := Option.some.inj (hp.symm.trans hp')
    refine ⟨signature, hdeclared ▸ hfind, ?_⟩
    rw [hanswer, State.get?_add_kernel] at hk
    obtain rfl : _ = k := Option.some.inj ((if_pos rfl).symm.trans hk)
    exact List.length_replicate.symm
  · rintro ⟨signature, hfind, rfl⟩
    exact ⟨_, _, ⟨name, List.replicate signature.parameters none⟩,
      gives_createKernel hp hbuilt (hdeclared.symm ▸ hfind),
      (d.get?_add_kernel _ _).trans (if_pos rfl), List.length_replicate⟩

/-! ## There and back -/

/-- **A program made from the binary** of a built one can be built, has the same binary, and has the
same kernels. -/
theorem copy_of_binary {d : State} (hd : d.Sound) {program : Handle} {source : String}
    (h : d.Built program source) (options : String) :
    ∃ copy d₁ d₂, (createProgramBinary (binaryOf source)).Gives d copy d₁ ∧
      (buildProgram copy options).Gives d₁ () d₂ ∧ d₂.Built program source ∧
      d₂.Built copy source ∧ d₂.Sound := by
  obtain ⟨p, hp, hp', rfl⟩ := h
  have hsound := hd.program _ _ hp
  have herrors := hsound.noErrors hp'
  have hold : program.id ≠ d.lastId + 1 := by
    have hle : program.id ≤ d.lastId := hd.fresh ⟨program.id, .program, none⟩ (by
      rw [State.kept?, State.lookup, hp]
      rfl)
    omega
  have hmade : Change d none (d.add (.program { source := p.source })) :=
    .add _ (.of_unbuilt hsound.text rfl)
  have hcopy : (d.add (.program { source := p.source })).programs.get?
      (d.nextHandle .program).id = some { source := p.source } :=
    (d.get?_add_program _ _).trans (if_pos rfl)
  have hbuilt : Change _ none _ := .build hcopy herrors
  have hbuild := run_buildProgram hcopy options
  rw [if_pos herrors] at hbuild
  refine ⟨d.nextHandle .program, _, _, gives_createProgramBinary hsound.text, hbuild,
    ⟨p, ?_, hp', rfl⟩,
    (State.built_of_note hcopy :), hbuilt.sound (hmade.sound hd)⟩
  -- The copy is under an id of its own.
  exact (Table.get?_modify _ _ _ _).trans
    ((if_neg hold).trans ((d.get?_add_program _ _).trans ((if_neg hold).trans hp)))

/-- **Programs and their binaries.** In every driver that requests lead to:
a build that goes through leaves a program with a binary; a program that is made from the binary of
a program goes through another build with any options, and then has that same binary, and a kernel
can be created from the one if and only if it can be created from the other, with as many slots;
a binary with a text behind the magic line is the binary of the program that it makes, once that is
built; and bytes that do not begin with the magic line are refused, without anything being made. -/
theorem State.Reached.binary {d : State} (hd : d.Reached) :
    (∀ program options d', (buildProgram program options).Gives d () d' →
      ∃ b, (programBinary program).Gives d' b d') ∧
    (∀ program b, (programBinary program).Gives d b d → ∀ options, ∃ copy d₁ d₂,
      (createProgramBinary b).Gives d copy d₁ ∧ (buildProgram copy options).Gives d₁ () d₂ ∧
        (programBinary copy).Gives d₂ b d₂ ∧ ∀ name slots,
          (d₂.MakesKernel copy name slots ↔ d₂.MakesKernel program name slots) ∧
          (d₂.MakesKernel copy name slots ↔ d.MakesKernel program name slots)) ∧
    (∀ b source, b = binaryMagic ++ Text.bytesOf source → ∀ program options d₁ d₂,
      (createProgramBinary b).Gives d program d₁ → (buildProgram program options).Gives d₁ () d₂ →
        (programBinary program).Gives d₂ b d₂) ∧
    ∀ b, ¬ binaryMagic <+: b → (createProgramBinary b).run.run d =
      (.error (.returned "clCreateProgramWithBinary" .invalidBinary), d) := by
  refine ⟨?_, ?_, ?_, fun b hb => run_createProgramBinary_of_none hb⟩
  · intro program options d' h
    obtain ⟨p, -, -, hbuilt⟩ := built_of_buildProgram h
    exact ⟨_, gives_programBinary hbuilt⟩
  · intro program b h options
    obtain ⟨source, hbuilt, rfl⟩ := built_of_programBinary h
    obtain ⟨copy, d₁, d₂, hcreate, hbuild, hold, hnew, hsound⟩ :=
      copy_of_binary hd.sound hbuilt options
    refine ⟨copy, d₁, d₂, hcreate, hbuild, gives_programBinary hnew, fun name slots => ?_⟩
    have hkernels := makesKernel_iff hsound hnew name slots
    exact ⟨hkernels.trans (makesKernel_iff hsound hold name slots).symm,
      hkernels.trans (makesKernel_iff hd.sound hbuilt name slots).symm⟩
  · rintro _ source rfl program options d₁ d₂ hcreate hbuild
    obtain ⟨body, hbody, -, rfl, rfl⟩ := (tries_createProgramBinary _).of_gives hcreate
    obtain rfl := Option.some.inj ((afterMagic?_append _).symm.trans hbody)
    obtain ⟨p, hp, -, hbuilt⟩ := built_of_buildProgram hbuild
    rw [State.get?_add_program] at hp
    obtain rfl := Option.some.inj ((if_pos rfl).symm.trans hp)
    rw [Text.decodeLenient_bytesOf] at hbuilt
    exact gives_programBinary hbuilt

/-- A driver with a program whose source is not all of one byte a character. -/
def State.withProgram : State :=
  State.after {} (.createProgram "kernel void f(int größe, int n) {}")

/-- Once the program is built, a copy that is made from its binary has a kernel of two slots as the
program itself has; three bytes that are no binary make no program. -/
theorem State.binary_of_umlaut :
    ∃ d, d.Reached ∧ (buildProgram ⟨1, .program, some 0⟩ "").Gives State.withProgram () d ∧
      ∃ b copy d₁ d₂, (programBinary ⟨1, .program, some 0⟩).Gives d b d ∧
        (createProgramBinary b).Gives d copy d₁ ∧ (buildProgram copy "-O2").Gives d₁ () d₂ ∧
        (programBinary copy).Gives d₂ b d₂ ∧ d₂.MakesKernel copy "f" 2 ∧
        (createProgramBinary [83, 73, 77]).run.run d =
          (.error (.returned "clCreateProgramWithBinary" .invalidBinary), d) := by
  have hcreated : State.withProgram.Reached := (State.Reached.start 0).after _
  have herrors : errorLines "kernel void f(int größe, int n) {}" = [] := by decide +kernel
  have hdeclared : declarations "kernel void f(int größe, int n) {}" = [⟨"f", 2⟩] := by
    decide +kernel
  have hprogram : State.withProgram.programs.get? (Handle.mk 1 .program (some 0)).id =
      some ⟨"kernel void f(int größe, int n) {}", false, []⟩ := rfl
  have hrun := run_buildProgram hprogram ""
  rw [if_pos herrors] at hrun
  have hd : (State.withProgram.after (.buildProgram ⟨1, .program, some 0⟩ "")).Reached :=
    hcreated.after _
  have hbuild : (buildProgram ⟨1, .program, some 0⟩ "").Gives State.withProgram ()
      (State.withProgram.after (.buildProgram ⟨1, .program, some 0⟩ "")) :=
    Prod.ext (congrArg Prod.fst hrun) rfl
  obtain ⟨hbinary, -⟩ := hcreated.binary
  obtain ⟨-, hcopy, -, hrefused⟩ := hd.binary
  obtain ⟨b, hb⟩ := hbinary _ _ _ hbuild
  obtain ⟨copy, d₁, d₂, hcreate, hcopied, hsame, hkernels⟩ := hcopy _ _ hb "-O2"
  refine ⟨_, hd, hbuild, b, copy, d₁, d₂, hb, hcreate, hcopied, hsame, ?_,
    hrefused _ (by decide +kernel)⟩
  obtain ⟨p, hp, -, hbuilt⟩ := built_of_buildProgram hbuild
  obtain rfl := Option.some.inj hp
  exact (hkernels "f" 2).2.2
    ((makesKernel_iff hd.sound hbuilt "f" 2).2 ⟨⟨"f", 2⟩, by rw [hdeclared]; rfl, rfl⟩)

end DriverBench.Simulator
