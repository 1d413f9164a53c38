import DriverBench.Proofs.Session.Balance
/-!
# What reading an expression spares

Whatever is read, and whether or not it fails, a line that has only read so far has taken nothing
away and altered nothing (`Spares`): the bindings, the options and the drivers' settings and records
are the same, and the drivers keep what they kept, up to what was let go. Evaluating an expression
also leaves alone what the line holds (`Derives`) and the arguments of kernels (`Builds`), and what
a line reads in front of what it is for leaves alone the latter (`Reads`). Writing into what was
made on the way is no exception, since that has a newer id.
-/

namespace DriverBench

open Device Simulator

namespace Session

/-- Nothing that was there is taken away or altered. Objects of the host may have been added to the
operations under way. -/
structure Spares (s s' : Session) : Prop where
  env : s'.env = s.env
  options : s'.options = s.options
  depth : s'.depth = s.depth
  active : s'.active = s.active
  files : s'.files = s.files
  codec : s'.codec = s.codec
  journal : s'.journal = s.journal
  out : s'.out.broken = s.out.broken
  err : s'.err.broken = s.err.broken
  inFlight : ∃ es, s'.inFlight = s.inFlight ++ es ∧ ∀ e ∈ es, e.object.handle? = none
  fleet : Fleet.Pairs State.Grown s.fleet s'.fleet

/-- Nothing that was there is taken away or altered, and the line holds what it held. -/
structure Derives (s s' : Session) : Prop extends Spares s s' where
  temporaries : s'.temporaries = s.temporaries

/-- Nothing that was there is taken away or altered, not even the argument of a kernel, and the line
holds what it held. -/
structure Builds (s s' : Session) : Prop extends Derives s s' where
  intact : Fleet.Pairs State.Intact s.fleet s'.fleet

instance : TalkFrame Spares where
  refl s := ⟨rfl, rfl, rfl, rfl, rfl, rfl, rfl, rfl, rfl, ⟨[], by simp⟩, Frame.refl s.fleet⟩
  trans {a b c} h h' := by
    obtain ⟨es, he, hes⟩ := h.inFlight
    obtain ⟨es', he', hes'⟩ := h'.inFlight
    refine ⟨h'.env.trans h.env, h'.options.trans h.options, h'.depth.trans h.depth,
      h'.active.trans h.active, h'.files.trans h.files, h'.codec.trans h.codec,
      h'.journal.trans h.journal, h'.out.trans h.out, h'.err.trans h.err,
      ⟨es ++ es', by rw [he', he, List.append_assoc], fun e hm => ?_⟩,
      Frame.trans h.fleet h'.fleet⟩
    rcases List.mem_append.1 hm with hm | hm
    · exact hes e hm
    · exact hes' e hm
  of_talks := by
    rintro s _ ⟨out, err, rfl⟩
    exact ⟨rfl, rfl, rfl, rfl, rfl, rfl, rfl, rfl, rfl, ⟨[], by simp⟩, Frame.refl s.fleet⟩

instance : TalkFrame Derives where
  refl s := ⟨Frame.refl s, rfl⟩
  trans h h' := ⟨Frame.trans h.toSpares h'.toSpares, h'.temporaries.trans h.temporaries⟩
  of_talks := by
    rintro s s' h
    refine ⟨TalkFrame.of_talks s s' h, ?_⟩
    obtain ⟨out, err, rfl⟩ := h
    rfl

instance : TalkFrame Builds where
  refl s := ⟨Frame.refl s, Frame.refl s.fleet⟩
  trans h h' := ⟨Frame.trans h.toDerives h'.toDerives, Frame.trans h.intact h'.intact⟩
  of_talks := by
    rintro s s' h
    refine ⟨TalkFrame.of_talks s s' h, ?_⟩
    obtain ⟨out, err, rfl⟩ := h
    exact Frame.refl s.fleet

/-- Nothing that was there is taken away or altered, not even the argument of a kernel. -/
structure Reads (s s' : Session) : Prop extends Spares s s' where
  intact : Fleet.Pairs State.Intact s.fleet s'.fleet

instance : TalkFrame Reads where
  refl s := ⟨Frame.refl s, Frame.refl s.fleet⟩
  trans h h' := ⟨Frame.trans h.toSpares h'.toSpares, Frame.trans h.intact h'.intact⟩
  of_talks := by
    rintro s s' h
    refine ⟨TalkFrame.of_talks s s' h, ?_⟩
    obtain ⟨out, err, rfl⟩ := h
    exact Frame.refl s.fleet

/-- A frame that allows for reading, and for what a line holds from then on. -/
class ReadFrame (R : Session → Session → Prop) : Prop extends TalkFrame R where
  of_builds : ∀ s s', Builds s s' → R s s'
  of_keep : ∀ (s : Session) temporaries, R s { s with temporaries }

theorem reads_keep (s : Session) (temporaries : List Entity) :
    s.Reads { s with temporaries } :=
  ⟨⟨rfl, rfl, rfl, rfl, rfl, rfl, rfl, rfl, rfl, ⟨[], by simp⟩, Frame.refl s.fleet⟩,
    Frame.refl s.fleet⟩

instance : ReadFrame Reads where
  of_builds _ _ h := ⟨h.toSpares, h.intact⟩
  of_keep := reads_keep

instance : ReadFrame Spares where
  of_builds _ _ h := h.toSpares
  of_keep s temporaries := (reads_keep s temporaries).toSpares

/-- A change of the drivers that takes nothing away. -/
theorem derives_of_grown {s : Session} {fleet : Fleet} (h : Fleet.Pairs State.Grown s.fleet fleet) :
    s.Derives { s with fleet } :=
  ⟨⟨rfl, rfl, rfl, rfl, rfl, rfl, rfl, rfl, rfl, ⟨[], by simp⟩, h⟩, rfl⟩

theorem builds_of_intact {s : Session} {fleet : Fleet}
    (h : Fleet.Pairs State.Intact s.fleet fleet) : s.Builds { s with fleet } :=
  ⟨derives_of_grown (h.mono fun _ _ hi => hi.grown), h⟩

theorem builds_letGoHandle (s : Session) (h : Handle) : s.Builds (s.letGoHandle h) := by
  obtain ⟨fleet, heq, hg⟩ := foldl_letGoHandle_eq [h] s
  rw [List.foldl_cons, List.foldl_nil] at heq
  rw [heq]
  exact builds_of_intact (hg.mono fun _ _ h => h.intact)

theorem builds_letGo (s : Session) (es : List Entity) : s.Builds (s.letGo es) := by
  obtain ⟨fleet, heq, hg⟩ := foldl_letGoHandle_eq (es.filterMap (·.object.handle?)) s
  rw [letGo, heq]
  exact builds_of_intact (hg.mono fun _ _ h => h.intact)

/-- A handle is newer than a session if the driver in use gave it out since. -/
def Newer (s : Session) (h : Handle) : Prop :=
  ∀ n d, s.active = some n → s.fleet.get? n = some d → d.lastId < h.id

end Session

end DriverBench
