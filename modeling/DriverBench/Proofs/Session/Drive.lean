import DriverBench.Proofs.Session.Spares
/-!
# Calls of the driver in use

A session makes a call of the driver in use, if there is one, and keeps that driver as the call left
it. So what a call does to a driver says what it does to the session: to what was there before, and
to the balance of what is kept and what is referred to.
-/

namespace DriverBench

open Device Simulator

/-- The session with a driver in place of the one with its number. -/
def Session.withDriver (s : Session) (n : Nat) (d : State) : Session :=
  { s with fleet := s.fleet.modify n fun _ => d }

namespace Session

theorem withDriver_self {s : Session} {n : Nat} {d : State} (hd : s.fleet.get? n = some d) :
    s.withDriver n d = s := by
  have hf : (s.fleet.modify n fun _ => d) = s.fleet := by
    refine Fleet.ext_get? fun k => ?_
    rw [Fleet.get?_modify]
    split
    · next hk => rw [hk, hd, Option.map_some]
    · rfl
  rw [withDriver, hf]

theorem withDriver_withDriver (s : Session) (n : Nat) (d d' : State) :
    (s.withDriver n d).withDriver n d' = s.withDriver n d' := by
  have hf : ((s.fleet.modify n fun _ => d).modify n fun _ => d') =
      s.fleet.modify n fun _ => d' := by
    refine Fleet.ext_get? fun k => ?_
    simp only [Fleet.get?_modify]
    split
    · cases s.fleet.get? k <;> rfl
    · rfl
  rw [withDriver, withDriver, hf]
  rfl

theorem get?_withDriver {s : Session} {n : Nat} {d : State} (hd : s.fleet.get? n = some d)
    (d' : State) : (s.withDriver n d').fleet.get? n = some d' := by
  rw [withDriver, Fleet.get?_modify, if_pos rfl, hd, Option.map_some]

theorem driver?_withDriver {s : Session} {n : Nat} {d : State} (hn : s.active = some n)
    (hd : s.fleet.get? n = some d) (d' : State) : (s.withDriver n d').driver? = some d' :=
  driver?_of_active hn (get?_withDriver hd d')

end Session

namespace Action

variable {α : Type} {R : Session → Session → Prop}

/-- A call of the driver in use: there is none, or it changes and answers. -/
theorem run_drive (c : Call α) (s : Session) :
    (drive c).run.run s = match s.active with
      | none => (.error { fault := .noDriver }, s)
      | some n =>
        match s.fleet.get? n with
        | none => (.error { fault := .noDriver }, s)
        | some d =>
          match c.run.run d with
          | (.ok a, d') => (.ok a, s.withDriver n d')
          | (.error e, d') => (.error { fault := .driver e }, s.withDriver n d') := by
  unfold drive Fleet.call Session.withDriver
  rw [run_get_bind]
  cases s.active with
  | none => rfl
  | some n =>
    dsimp only
    cases s.fleet.get? n with
    | none => rfl
    | some d =>
      dsimp only
      rcases c.run.run d with ⟨e | a, d'⟩ <;> rfl

/-- Without a driver no call is made. -/
theorem run_drive_of_none {s : Session} (hd : s.driver? = none) (c : Call α) :
    (drive c).run.run s = (.error { fault := .noDriver }, s) := by
  rw [run_drive]
  cases hn : s.active with
  | none => rfl
  | some n =>
    rw [Session.driver?, hn, Option.bind_some] at hd
    dsimp only
    rw [hd]

theorem run_activeDriver (s : Session) :
    activeDriver.run.run s = match s.driver? with
      | some d => (.ok d, s)
      | none => (.error { fault := .noDriver }, s) := by
  unfold activeDriver
  rw [run_get_bind]
  cases s.driver? <;> rfl

/-- Where a driver is in use, it is found. -/
theorem ensures_activeDriver {P : Session → Prop} (hP : ∀ s, P s → s.driver?.isSome) :
    Ensures P activeDriver (fun d s => P s ∧ s.driver? = some d) (fun _ => False) := by
  intro s hs
  obtain ⟨d, hd⟩ := Option.isSome_iff_exists.1 (hP s hs)
  rw [run_activeDriver, hd]
  exact ⟨hs, hd⟩

theorem Ensures.drive {c : Call α} {P E : Session → Prop} {Q : α → Session → Prop}
    (hnone : ∀ s, P s → s.driver? = none → E s)
    (hcall : ∀ s n d, P s → s.active = some n → s.fleet.get? n = some d →
      match c.run.run d with
      | (.ok a, d') => Q a (s.withDriver n d')
      | (.error _, d') => E (s.withDriver n d')) :
    Ensures P (drive c) Q E := by
  intro s hs
  rw [run_drive]
  cases hn : s.active with
  | none => exact hnone s hs (by rw [Session.driver?, hn]; rfl)
  | some n =>
    dsimp only
    cases hd : s.fleet.get? n with
    | none => exact hnone s hs (by rw [Session.driver?, hn]; exact hd)
    | some d =>
      have h := hcall s n d hs hn hd
      dsimp only
      rcases hr : c.run.run d with ⟨e | a, d'⟩ <;> · rw [hr] at h; exact h

theorem within_drive [Frame R] {c : Call α}
    (h : ∀ s n d, s.fleet.get? n = some d → R s (s.withDriver n (c.run.run d).2)) :
    Within R (drive c) := by
  intro s
  rw [run_drive]
  cases s.active with
  | none => exact Frame.refl s
  | some n =>
    dsimp only
    cases hd : s.fleet.get? n with
    | none => exact Frame.refl s
    | some d =>
      have hc := h s n d hd
      dsimp only
      rcases hr : c.run.run d with ⟨e | a, d'⟩ <;> · rw [hr] at hc; exact hc

/-! ## What was there before -/

theorem derives_withDriver {s : Session} {n : Nat} {d d' : State} (hd : s.fleet.get? n = some d)
    (h : d.Grown d') : s.Derives (s.withDriver n d') := by
  refine Session.derives_of_grown (Fleet.pairs_modify fun d₁ hd₁ => ?_)
  rw [hd] at hd₁
  exact Option.some.inj hd₁ ▸ h

theorem within_derives_drive {c : Call α} (h : Within State.Grown c) :
    Within Session.Derives (drive c) :=
  within_drive fun _ _ d hd => derives_withDriver hd (h d)

theorem builds_withDriver {s : Session} {n : Nat} {d d' : State} (hd : s.fleet.get? n = some d)
    (h : d.Intact d') : s.Builds (s.withDriver n d') := by
  refine Session.builds_of_intact (Fleet.pairs_modify fun d₁ hd₁ => ?_)
  rw [hd] at hd₁
  exact Option.some.inj hd₁ ▸ h

theorem within_builds_drive {c : Call α} (h : Within State.Intact c) :
    Within Session.Builds (drive c) :=
  within_drive fun _ _ d hd => builds_withDriver hd (h d)

/-- What a call creates is newer than the session was before it. -/
theorem builds_of_creates {c : Call α} {handle : α → Handle} (hc : Creates c handle)
    (s₀ : Session) :
    Ensures (fun s => s = s₀) (drive c) (fun a s => s₀.Builds s ∧ s₀.Newer (handle a))
      s₀.Builds := by
  refine Ensures.drive (fun s hs _ => hs ▸ Frame.refl s) fun s n d hs hn hd => ?_
  subst hs
  have h := hc d d rfl
  rcases hr : c.run.run d with ⟨e | a, d'⟩
  · rw [hr] at h
    obtain rfl : d' = d := h
    exact builds_withDriver hd (Frame.refl d')
  · rw [hr] at h
    obtain ⟨x, rfl, hx⟩ := h
    refine ⟨builds_withDriver hd (d.intact_add x), fun m d₁ hm hd₁ => ?_⟩
    obtain rfl : n = m := Option.some.inj (hn.symm.trans hm)
    obtain rfl : d = d₁ := Option.some.inj (hd.symm.trans hd₁)
    rw [hx]
    exact Nat.lt_succ_self _

/-- What was made since may be altered. -/
theorem builds_of_alters {c : Call α} {s₀ : Session} {h : Handle}
    (hc : Within (State.AltersAt h.id) c) (hh : s₀.Newer h) :
    Ensures s₀.Builds (drive c) (fun _ => s₀.Builds) s₀.Builds := by
  refine Ensures.drive (fun _ h _ => h) fun s n d hs hn hd => ?_
  have hfleet : Fleet.Pairs State.Intact s₀.fleet (s.withDriver n (c.run.run d).2).fleet :=
    hs.intact.modify fun d₀ hd₀ => by
      obtain ⟨d₁, hd₁, hg⟩ := hs.intact.exists_of_left hd₀
      obtain rfl : d = d₁ := Option.some.inj (hd.symm.trans hd₁)
      exact hg.alter (hc d) (hh n d₀ (hs.active.symm.trans hn) hd₀)
  have hgrown := hfleet.mono fun _ _ hi => hi.grown
  have hd' : s₀.Builds (s.withDriver n (c.run.run d).2) :=
    ⟨⟨{ hs.toSpares with fleet := hgrown }, hs.temporaries⟩, hfleet⟩
  rcases hr : c.run.run d with ⟨e | a, d'⟩ <;> · rw [hr] at hd'; exact hd'

/-! ## What is kept -/

theorem keeps_withDriver {s : Session} {n : Nat} {d d' : State} (hd : s.fleet.get? n = some d)
    (h : d.SameLive d') : s.Keeps (s.withDriver n d') := by
  refine ⟨fun _ => Iff.rfl, rfl, rfl, Fleet.pairs_modify fun d₁ hd₁ => ?_⟩
  rw [hd] at hd₁
  exact Option.some.inj hd₁ ▸ h

theorem within_keeps_drive {c : Call α} (h : Within State.SameLive c) :
    Within Session.Keeps (drive c) :=
  within_drive fun _ _ d hd => keeps_withDriver hd (h d)

/-- **What a call creates** is kept under a handle that nothing else names. -/
theorem balanced_of_creates {c : Call α} {handle : α → Handle} (hc : Creates c handle)
    (X : List Handle) :
    Ensures (fun s => s.Balanced X) (drive c)
      (fun a s => s.Balanced (handle a :: X) ∧ handle a ∉ X) (fun s => s.Balanced X) := by
  refine Ensures.drive (fun _ h _ => h) fun s n d hs hn hd => ?_
  have h := hc d d rfl
  rcases hr : c.run.run d with ⟨e | a, d'⟩
  · rw [hr] at h
    obtain rfl : d' = d := h
    exact hs.keeps (keeps_withDriver hd (Frame.refl d'))
  · rw [hr] at h
    obtain ⟨x, rfl, hx⟩ := h
    obtain ⟨hserial, hfresh, -⟩ := hs.sound n d hd
    have hissuer : (handle a).issuer = some n := by
      rw [hx, ← hserial]
      rfl
    -- The new handle is the one place that was filled.
    have hlive : ∀ k, ((s.withDriver n (d.add x)).fleet.kept? k).isSome ↔
        (s.fleet.kept? k).isSome ∨ k = handle a := fun k => by
      rw [hx]
      exact Fleet.isSome_kept?_modify_add hs.sound hd x k
    refine ⟨⟨fun k => ?_, fun k hk => ?_, hs.sound.modify_add hd x⟩, fun hm => ?_⟩
    · rw [hlive, hs.live, List.mem_cons]
      change _ ↔ k ∈ s.handles ∨ _
      grind
    · rcases (hlive k).1 hk with hk | rfl
      · exact hs.issued k hk
      · exact hissuer.trans hn.symm
    · -- What is kept has an id that was given out before.
      have hl : (s.fleet.kept? (handle a)).isSome := (hs.live _).2 (.inr hm)
      rw [Fleet.kept?_eq hissuer hd] at hl
      have hle : (handle a).id ≤ d.lastId := hfresh _ hl
      rw [hx] at hle
      exact absurd hle (Nat.not_succ_le_self _)

end Action

/-- Where something of the device is there, a driver is in use. -/
theorem Session.Balanced.isSome_driver?_of_live {s : Session} {X : List Handle} {h : Handle}
    (hb : s.Balanced X) (hl : (s.fleet.kept? h).isSome) : s.driver?.isSome := by
  obtain ⟨n, d, hn, hd, -⟩ := Fleet.exists_of_isSome hl
  rw [Session.driver?, ← hb.issued h hl, hn, Option.bind_some, hd]
  rfl

theorem Session.Balanced.isSome_driver? {s : Session} {X : List Handle} {h : Handle}
    (hb : s.Balanced X) (hh : h ∈ X) : s.driver?.isSome :=
  hb.isSome_driver?_of_live ((hb.live h).2 (.inr hh))

end DriverBench
