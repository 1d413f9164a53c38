import DriverBench.Proofs.Session.Balance
/-!
# The operations of a session keep the balance

Binding, holding, unbinding, waiting, a change of selection and a change of driver move references
or give them up. Each of them leads from a session in balance to one in balance.
-/

namespace DriverBench

open Device Simulator

/-- The handles that an object brings with it: one, or none for bytes of the host. -/
def Entity.handles (e : Entity) : List Handle :=
  e.object.handle?.toList

theorem Entity.mem_handles {e : Entity} {h : Handle} :
    h ∈ e.handles ↔ e.object.handle? = some h := by
  simp [handles, eq_comm]

namespace Environment

variable {α : Type}

theorem bindings_of_insert {env env' : Environment α} {name : String} {a : α}
    (h : env.insert name a = .ok env') : env'.bindings = env.bindings ++ [(name, a)] := by
  unfold insert at h
  split at h
  · cases h
  · obtain rfl := Except.ok.inj h
    rfl

theorem values_of_insert {env env' : Environment α} {name : String} {a : α}
    (h : env.insert name a = .ok env') : env'.values = env.values ++ [a] := by
  rw [values, bindings_of_insert h, List.map_append, List.map_singleton, values]

theorem mem_keep {env : Environment α} {p : String × α → Bool} {b : String × α} :
    b ∈ (env.keep p).bindings ↔ b ∈ env.bindings ∧ p b = true :=
  List.mem_filter

theorem mem_values {env : Environment α} {a : α} :
    a ∈ env.values ↔ ∃ b ∈ env.bindings, b.2 = a := by
  simp [values]

theorem mem_values_of_lookup {env : Environment α} {name : String} {a : α}
    (h : env.lookup name = some a) : a ∈ env.values := by
  obtain ⟨b, hb, rfl⟩ := Option.map_eq_some_iff.1 h
  exact mem_values.2 ⟨b, List.mem_of_find?_eq_some hb, rfl⟩

end Environment

namespace Session

theorem mem_held {s : Session} {e : Entity} :
    e ∈ s.held ↔ e ∈ s.env.values ∨ e ∈ s.inFlight ∨ e ∈ s.temporaries := by
  simp [held]

/-- An object that nothing refers to yet is given up. -/
theorem Balanced.letGo {s : Session} {e : Entity} {X : List Handle}
    (h : s.Balanced (e.handles ++ X)) (hd : ∀ k ∈ e.handles, k ∉ X) : (s.letGo [e]).Balanced X := by
  have hgo : [e].filterMap (·.object.handle?) = e.handles := by
    cases he : e.object.handle? <;> simp [Entity.handles, he]
  rw [Session.letGo, hgo]
  exact h.letGoHandles hd

theorem Balanced.keep {s : Session} {e : Entity} (h : s.Balanced e.handles) :
    ({ s with temporaries := s.temporaries ++ [e] } : Session).Balanced [] := by
  refine h.move rfl rfl fun k => ?_
  simp only [mem_handles, mem_held, Entity.mem_handles, List.mem_append, List.mem_singleton,
    List.not_mem_nil, or_false]
  grind

/-- An object that was bound is referred to from then on. -/
theorem Balanced.bind {s : Session} {e : Entity} {name : String} {env : Environment Entity}
    (h : s.Balanced e.handles) (hi : s.env.insert name e = .ok env) :
    ({ s with env } : Session).Balanced [] := by
  refine h.move rfl rfl fun k => ?_
  simp only [mem_handles, mem_held, Entity.mem_handles, Environment.values_of_insert hi,
    List.mem_append, List.mem_singleton, List.not_mem_nil, or_false]
  grind

theorem Balanced.launched {s : Session} {es : List Entity} (h : s.Balanced [])
    (hes : ∀ e ∈ es, ∀ k ∈ e.handles, k ∈ s.handles) :
    ({ s with inFlight := s.inFlight ++ es } : Session).Balanced [] := by
  refine h.move rfl rfl fun k => ?_
  simp only [mem_handles, mem_held, Entity.mem_handles, List.mem_append, List.not_mem_nil,
    or_false] at hes ⊢
  grind

/-- At its end a line leaves nothing behind that it held. -/
theorem Balanced.idle_dropTemporaries {s : Session} (h : s.Balanced []) :
    s.dropTemporaries.Idle := by
  refine ⟨h.drop rfl rfl fun k => ?_, ?_⟩
  · simp only [mem_handles, mem_held, List.not_mem_nil]
    grind
  · obtain ⟨fleet, heq, -⟩ := letGo_eq { s with temporaries := [] } s.temporaries
    rw [dropTemporaries, heq]

theorem Balanced.wait {s : Session} (h : s.Balanced []) :
    ({ s with inFlight := [] }.letGo s.inFlight).Balanced [] := by
  refine h.drop rfl rfl fun k => ?_
  simp only [mem_handles, mem_held, List.not_mem_nil]
  grind

/-- What is unbound is what is listed, and it is let go. -/
theorem eq_letGo_of_unbind {s s' : Session} {names : List String} {count : Nat}
    (hu : s.unbind names = .ok (count, s')) :
    s' = ({ s with env := s.env.keep fun b => !names.contains b.1 } : Session).letGo
      ((s.env.bindings.filter fun b => names.contains b.1).map Prod.snd) := by
  unfold unbind Environment.release at hu
  split at hu
  · cases hu
  · exact (Prod.mk.inj (Except.ok.inj hu)).2.symm

theorem Balanced.unbind {s s' : Session} {names : List String} {count : Nat} (h : s.Balanced [])
    (hu : s.unbind names = .ok (count, s')) : s'.Balanced [] := by
  obtain rfl := eq_letGo_of_unbind hu
  refine h.drop rfl rfl fun k => ?_
  simp only [mem_handles, mem_held, Environment.mem_values, Environment.mem_keep, List.mem_map,
    List.mem_filter]
  grind

theorem Balanced.invalidate {s : Session} (h : s.Balanced []) : s.invalidate.2.Balanced [] := by
  refine h.drop rfl rfl fun k => ?_
  simp only [mem_handles, mem_held, Environment.mem_values, Environment.mem_keep, List.mem_filter,
    List.mem_append, Object.isDriverOwned]
  grind

/-- Names are taken away for all or for none, and nothing else of the session is. -/
theorem unbind_eq {s s' : Session} {names : List String} {count : Nat}
    (hu : s.unbind names = .ok (count, s')) :
    ∃ env fleet, s' = { s with env, fleet } := by
  obtain ⟨fleet, heq, -⟩ := letGo_eq { s with env := s.env.keep fun b => !names.contains b.1 }
    ((s.env.bindings.filter fun b => names.contains b.1).map Prod.snd)
  exact ⟨s.env.keep fun b => !names.contains b.1, fleet, (eq_letGo_of_unbind hu).trans heq⟩

/-- The bindings and the operations under way without what the device holds. -/
def hostOnly (s : Session) : Session :=
  { s with
    env := (s.env.clearWhere (·.object.isDriverOwned)).2
    inFlight := s.inFlight.filter fun e => !e.object.isDriverOwned }

theorem invalidate_eq (s : Session) :
    ∃ fleet, s.invalidate.2 = { s.hostOnly with fleet } := by
  obtain ⟨fleet, heq, -⟩ := letGo_eq s.hostOnly
    ((s.env.values ++ s.inFlight).filter (·.object.isDriverOwned))
  exact ⟨fleet, heq⟩

theorem setDriver_eq (s : Session) :
    ∃ active fleet, s.setDriver.2 = { s.hostOnly with active, fleet } := by
  obtain ⟨fleet, heq⟩ := invalidate_eq s
  refine ⟨s.setDriver.2.active, s.setDriver.2.fleet, ?_⟩
  have hs : s.setDriver.2 =
      { s.invalidate.2 with fleet := s.setDriver.2.fleet, active := s.setDriver.2.active } := rfl
  rw [hs, heq]

/-- A change of driver or of selection spares the current line only. -/
theorem mem_handles_invalidate {s : Session} {k : Handle} :
    k ∈ s.invalidate.2.handles ↔ ∃ e ∈ s.temporaries, e.object.handle? = some k := by
  obtain ⟨fleet, heq⟩ := invalidate_eq s
  rw [heq]
  simp only [mem_handles, mem_held, hostOnly, Environment.clearWhere, Environment.mem_values,
    Environment.mem_keep, List.mem_filter, Object.isDriverOwned]
  grind

theorem temporaries_invalidate (s : Session) : s.invalidate.2.temporaries = s.temporaries := by
  obtain ⟨fleet, heq⟩ := invalidate_eq s
  rw [heq]
  rfl

theorem Idle.invalidate {s : Session} (h : s.Idle) : s.invalidate.2.Idle :=
  ⟨h.balanced.invalidate, (temporaries_invalidate s).trans h.temporaries⟩

/-- A driver is the new one or was there before. -/
theorem get?_setDriver {s : Session} {n : Nat} {d : State}
    (hd : s.setDriver.2.fleet.get? n = some d) :
    d = { serial := n, blocking := s.invalidate.2.options.block } ∨
      s.invalidate.2.fleet.get? n = some d := by
  change ((s.invalidate.2.fleet.start.2).modify s.invalidate.2.fleet.drivers.length
    fun d => { d with blocking := s.invalidate.2.options.block }).get? n = some d at hd
  rw [Fleet.get?_modify, Fleet.get?_start] at hd
  split at hd
  · exact .inl (Option.some.inj hd).symm
  · exact .inr hd

/-- **A new driver** starts with nothing, and with it the session has nothing of the device. -/
theorem Idle.setDriver {s : Session} (h : s.Idle) : s.setDriver.2.Idle := by
  have hb := h.balanced.invalidate
  have hhandles : ∀ k, k ∉ s.invalidate.2.handles := fun k hk => by
    rw [mem_handles_invalidate, h.temporaries] at hk
    simp at hk
  -- Nothing is referred to any more, so the drivers before keep nothing.
  have hold : ∀ k, ¬ (s.invalidate.2.fleet.kept? k).isSome := fun k hk => by
    rcases (hb.live k).1 hk with hk | hk
    · exact hhandles k hk
    · cases hk
  have hempty : ∀ n b k, ¬ (({ serial := n, blocking := b } : State).kept? k).isSome := by
    rintro n b ⟨id, kind, issuer⟩
    cases kind <;> simp [State.kept?, State.lookup, Table.get?]
  have hnew : ∀ k, ¬ (s.setDriver.2.fleet.kept? k).isSome := fun k hk => by
    obtain ⟨n, d, hn, hd, hdk⟩ := Fleet.exists_of_isSome hk
    rcases get?_setDriver hd with rfl | hd
    · exact hempty _ _ k hdk
    · exact hold k (by rwa [Fleet.kept?_eq hn hd])
  refine ⟨⟨fun k => ?_, fun k hk => absurd hk (hnew k), fun n d hd => ?_⟩, h.invalidate.temporaries⟩
  · constructor
    · exact fun hk => absurd hk (hnew k)
    · rintro (hk | hk)
      · exact absurd hk (hhandles k)
      · cases hk
  · rcases get?_setDriver hd with rfl | hd
    · exact ⟨rfl, fun k hk => absurd hk (hempty _ _ k),
        fun h _ hh => absurd hh (hempty _ _ h)⟩
    · exact hb.sound n d hd

/-- A setting is a matter of the options, and of what the driver does at its calls. -/
theorem configure_eq (s : Session) (setting : Setting) (value : Bool) :
    ∃ fleet, s.configure setting value =
        { s with options := setting.change s.options value, fleet } ∧
      Fleet.Pairs State.SameTables s.fleet fleet := by
  rcases s with ⟨env, inFlight, temporaries, fleet, _ | n, options, depth, out, err, files, codec,
    entities, journal⟩
  · cases setting <;> exact ⟨fleet, rfl, Frame.refl _⟩
  · cases setting
    case block =>
      exact ⟨_, rfl, Fleet.pairs_modify fun d _ => ⟨rfl, rfl, rfl, rfl, rfl⟩⟩
    all_goals exact ⟨fleet, rfl, Frame.refl _⟩

theorem keeps_configure (s : Session) (setting : Setting) (value : Bool) :
    s.Keeps (s.configure setting value) := by
  obtain ⟨fleet, heq, hp⟩ := configure_eq s setting value
  rw [heq]
  exact ⟨fun _ => Iff.rfl, rfl, rfl, hp.mono fun _ _ h => h.sameLive⟩

end Session

end DriverBench
