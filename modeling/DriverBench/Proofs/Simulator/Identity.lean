import Mathlib.Data.List.Nodup
import DriverBench.Proofs.Simulator.Launches
/-!
# Ids and the objects that they stand for

A driver gives ids out over three tables, and they outlive what they stand for: in the slots of
kernels and in recorded launches an id is a bare number. Which object an id stands for is therefore
said by the history, as the moment at which what is kept under the id was created
(`History.born`). An id that is given out again would get another moment.

What a request does to ids is said once (`Issue`): it adds one entry and gives its handle out, or it
gives nothing out and nothing comes. So ids are given out one after the other, what is gone stays
gone, and what an id stands for is one object for good. `History.ids_never_reused` reads off what
that means for the ids that are stored.
-/

namespace DriverBench.Simulator

open Device

/-! ## What a request gives out -/

namespace State

/-- What a driver answers to a call that goes through. -/
def answer? {α : Type} (d : State) (c : Call α) : Option α :=
  (c.run.run d).1.toOption

/-- The handle that a driver gives out for a request, if it creates something. -/
def gives? (d : State) : Request → Option Handle
  | .createBuffer size => (d.answer? (createBuffer size)).map (·.handle)
  | .createImage format desc data => (d.answer? (createImage format desc data)).map (·.handle)
  | .createProgram source => d.answer? (createProgram source)
  | .createProgramBinary binary => d.answer? (createProgramBinary binary)
  | .createKernel program name => (d.answer? (createKernel program name)).map Prod.fst
  | .cloneKernel kernel => (d.answer? (cloneKernel kernel)).map Prod.fst
  | _ => none

/-- Whether anything is kept under an id, in whichever table. -/
def isLive (d : State) (id : Nat) : Bool :=
  d.memories.contains id || d.programs.contains id || d.kernels.contains id

/-- What is live is kept under some handle. -/
theorem isLive_iff {d : State} {id : Nat} :
    d.isLive id = true ↔ ∃ h : Handle, h.id = id ∧ (d.kept? h).isSome := by
  have hlookup : d.isLive id = true ↔ ∃ kind, (d.lookup kind id).isSome := by
    simp only [isLive, Table.contains, Bool.or_eq_true]
    constructor
    · rintro ((h | h) | h)
      · exact ⟨.buffer, by simpa [lookup] using h⟩
      · exact ⟨.program, by simpa [lookup] using h⟩
      · exact ⟨.kernel, by simpa [lookup] using h⟩
    · rintro ⟨_ | _ | _ | _, h⟩ <;> simp_all [lookup]
  rw [hlookup]
  constructor
  · rintro ⟨kind, h⟩
    obtain ⟨x, hx⟩ := Option.isSome_iff_exists.1 h
    exact ⟨⟨id, x.kind, none⟩, rfl, by rw [kept?_of_lookup hx]; rfl⟩
  · rintro ⟨h, rfl, hh⟩
    obtain ⟨x, hx⟩ := Option.isSome_iff_exists.1 hh
    exact ⟨h.kind, by rw [(Option.filter_eq_some_iff.1 hx).1]; rfl⟩

/-- Under the id of a handle there is something if there is something under the handle. -/
theorem isLive_of_kept? {d : State} {h : Handle} (hh : (d.kept? h).isSome) : d.isLive h.id = true :=
  isLive_iff.2 ⟨h, rfl, hh⟩

/-- With a new entry its id is live as well. -/
theorem isLive_add {d : State} (hd : d.Fresh) (x : Entry) {id : Nat} :
    (d.add x).isLive id = true ↔ d.isLive id = true ∨ id = d.lastId + 1 := by
  constructor
  · intro hid
    obtain ⟨k, rfl, hk⟩ := isLive_iff.1 hid
    rcases (isSome_kept?_add hd x k).1 hk with hk | ⟨hk, -⟩
    · exact .inl (isLive_of_kept? hk)
    · exact .inr hk
  · rintro (hid | rfl)
    · obtain ⟨k, rfl, hk⟩ := isLive_iff.1 hid
      exact isLive_of_kept? ((isSome_kept?_add hd x k).2 (.inl hk))
    · exact isLive_of_kept? (h := d.nextHandle x.kind)
        ((isSome_kept?_add hd x _).2 (.inr ⟨rfl, rfl⟩))

/-- No id is given out, and nothing comes. -/
structure Sheds (d d' : State) : Prop where
  lastId : d'.lastId = d.lastId
  kept : ∀ h : Handle, (d'.kept? h).isSome → (d.kept? h).isSome

instance : Frame Sheds where
  refl _ := ⟨rfl, fun _ h => h⟩
  trans h h' := ⟨h'.lastId.trans h.lastId, fun k hk => h.kept k (h'.kept k hk)⟩

theorem Sheds.isLive {d d' : State} (h : d.Sheds d') {id : Nat} (hid : d'.isLive id = true) :
    d.isLive id = true := by
  obtain ⟨k, rfl, hk⟩ := isLive_iff.1 hid
  exact isLive_of_kept? (h.kept k hk)

theorem SameTables.sheds {d d' : State} (h : d.SameTables d') : d.Sheds d' :=
  ⟨h.lastId, fun k hk => (h.sameLive.live k).1 hk⟩

theorem AltersAt.sheds {id : Nat} {d d' : State} (h : AltersAt id d d') : d.Sheds d' :=
  ⟨h.lastId, fun k hk => (h.live k).1 hk⟩

theorem sheds_release (d : State) (h : Handle) : d.Sheds (d.release h) := by
  refine ⟨d.lastId_release h, fun k hk => ?_⟩
  rw [kept?_release] at hk
  split at hk
  · cases hk
  · exact hk

/-- **What a request does to ids**: nothing is given out and nothing comes, or one entry is added
and the handle under which it is kept is given out. -/
inductive Issue (d : State) : Option Handle → State → Prop
  | nothing {d' : State} : d.Sheds d' → Issue d none d'
  | add (x : Entry) : Issue d (some (d.nextHandle x.kind)) (d.add x)

end State

/-- A call that creates something gives out the handle of what it adds, if it goes through. -/
theorem Creates.issue {α : Type} {c : Call α} {handle : α → Handle} (hc : Creates c handle)
    (d : State) :
    d.Issue ((d.answer? c).map handle) ((do let _ ← c : Call Unit).run.run d).2 := by
  have h := hc d d rfl
  rw [Action.run_bind]
  unfold State.answer?
  rcases hrun : c.run.run d with ⟨e | a, d'⟩
  · rw [hrun] at h
    obtain rfl : d' = d := h
    exact .nothing (Frame.refl d')
  · rw [hrun] at h
    obtain ⟨x, rfl, hx⟩ := h
    change d.Issue (some (handle a)) (d.add x)
    rw [hx]
    exact .add x

/-- Nothing comes of a call whose answer is left out if nothing comes of the call. -/
theorem issue_of_looking {α : Type} {c : Call α} (hc : Action.Within State.Sheds c) (d : State) :
    d.Issue none ((do let _ ← c : Call Unit).run.run d).2 :=
  .nothing (Action.within_bind hc (fun _ => Action.within_pure _) d)

/-- **Every request** gives out a handle that leads to a new entry, or nothing comes of it. -/
theorem issue_after (d : State) (r : Request) : d.Issue (d.gives? r) (d.after r) := by
  cases r with
  | createBuffer size => exact (creates_createBuffer size).issue d
  | createImage format desc data => exact (creates_createImage format desc data).issue d
  | createProgram source =>
    have h := (creates_createProgram source).issue d
    rwa [Option.map_id] at h
  | createProgramBinary binary =>
    have h := (creates_createProgramBinary binary).issue d
    rwa [Option.map_id] at h
  | createKernel program name => exact (creates_createKernel program name).issue d
  | cloneKernel kernel => exact (creates_cloneKernel kernel).issue d
  | selectPlatform index =>
    exact .nothing ((tries_selectPlatform index).within (fun _ _ _ h => h.sheds) d)
  | selectDevice index =>
    exact .nothing ((tries_selectDevice index).within (fun _ _ _ h => h.sheds) d)
  | flush => exact .nothing (tries_flush.within (fun _ _ _ h => h.sheds) d)
  | finish => exact .nothing (tries_finish.within (fun _ _ _ h => h.sheds) d)
  | setBlocking blocking => exact .nothing ⟨rfl, fun _ h => h⟩
  | readBuffer m offset length => exact issue_of_looking (within_readBuffer m offset length) d
  | readImage m origin region out => exact issue_of_looking (within_readImage m origin region out) d
  | programBinary program => exact issue_of_looking (within_programBinary program) d
  | writeBuffer m offset data => exact .nothing (within_writeBuffer m offset data d).sheds
  | copyBuffer src dst srcOffset dstOffset length =>
    exact .nothing (within_copyBuffer src dst srcOffset dstOffset length d).sheds
  | copyImage src dst srcOrigin dstOrigin region =>
    exact .nothing (within_copyImage src dst srcOrigin dstOrigin region d).sheds
  | writeImage m origin region data =>
    refine .nothing ((tries_writeImage m origin region data).within (fun d' _ _ h => ?_) d)
    obtain ⟨_, _, _, -, -, -, rfl⟩ := h
    exact (d'.altersAt_withBytes _ _).sheds
  | buildProgram program options => exact .nothing (within_buildProgram program options d).sheds
  | setArgument kernel index value =>
    refine .nothing ((tries_setArgument kernel index value).within (fun d' _ _ h => ?_) d)
    obtain ⟨-, -, rfl⟩ := h
    exact ⟨rfl, fun k hk => ((d'.alike_slots _ _ _).sameLive.live k).1 hk⟩
  | enqueueKernel kernel globalSize localSize =>
    refine .nothing ((tries_enqueueKernel kernel globalSize localSize).within (fun _ _ _ h => ?_) d)
    obtain ⟨_, _, -, -, rfl⟩ := h
    exact ⟨rfl, fun _ h => h⟩
  | release h => exact .nothing (d.sheds_release h)

/-! ## Ids along a history -/

namespace History

variable (serial : Nat)

/-- The handles that a driver gave out, latest first. -/
def issued : History → List Handle
  | [] => []
  | r :: past => ((state serial past).gives? r).toList ++ issued past

/-- The object that an id stands for, as the moment at which it was created: so many requests were
made before. An id under which nothing is kept stands for none. -/
def born : History → Nat → Option Nat
  | [], _ => none
  | r :: past, id =>
    if (state serial (r :: past)).isLive id then
      if ((state serial past).gives? r).any (·.id == id) then some past.length else born past id
    else none

/-- Memory of an id was bound as the argument of an index: a request to set it was done, and what
was asked before it is `earlier`. -/
def Bound (past : History) (index id : Nat) (earlier : History) : Prop :=
  ∃ kernel m, Did serial past (.setArgument kernel index (.memory m)) earlier ∧ m.handle.id = id

variable {serial : Nat} {past later : History} {index id : Nat}

/-- Nothing is under an id that was not given out. -/
theorem fresh_state (h : History) : (state serial h).Fresh :=
  (reached_state h).sound.fresh

/-- A request gives nothing out and nothing comes, or it gives the next id out and one entry comes.
-/
theorem issued_cons (serial : Nat) (r : Request) (past : History) :
    issued serial (r :: past) = issued serial past ∧
        (state serial past).Sheds (state serial (r :: past)) ∨
      ∃ x, issued serial (r :: past) =
          (state serial past).nextHandle x.kind :: issued serial past ∧
        state serial (r :: past) = (state serial past).add x := by
  have hissue := issue_after (state serial past) r
  rw [issued, state]
  generalize (state serial past).gives? r = given, (state serial past).after r = d at hissue ⊢
  cases hissue with
  | nothing h => exact .inl ⟨rfl, h⟩
  | add x => exact .inr ⟨x, rfl, rfl⟩

/-- As many ids were given out as the last one says. -/
theorem length_issued (h : History) : (issued serial h).length = (state serial h).lastId := by
  induction h with
  | nil => rfl
  | cons r past ih =>
    rcases issued_cons serial r past with ⟨heq, hsheds⟩ | ⟨x, heq, hadd⟩
    · rw [heq, ih, hsheds.lastId]
    · rw [heq, List.length_cons, ih, hadd]
      rfl

/-- Ids are given out from one up to the last one. -/
theorem id_of_issued {h : History} {k : Handle} (hk : k ∈ issued serial h) :
    0 < k.id ∧ k.id ≤ (state serial h).lastId := by
  induction h with
  | nil => cases hk
  | cons r past ih =>
    rcases issued_cons serial r past with ⟨heq, hsheds⟩ | ⟨x, heq, hadd⟩
    · rw [hsheds.lastId]
      exact ih (heq ▸ hk)
    · rw [hadd]
      change 0 < k.id ∧ k.id ≤ (state serial past).lastId + 1
      rw [heq] at hk
      rcases List.mem_cons.1 hk with rfl | hk
      · exact ⟨Nat.succ_pos _, Nat.le_refl _⟩
      · exact ⟨(ih hk).1, Nat.le_succ_of_le (ih hk).2⟩

/-- **Ids go up**: a handle that was given out earlier has a smaller one. -/
theorem pairwise_issued (h : History) :
    (issued serial h).Pairwise fun k earlier => earlier.id < k.id := by
  induction h with
  | nil => exact .nil
  | cons r past ih =>
    rcases issued_cons serial r past with ⟨heq, -⟩ | ⟨x, heq, -⟩
    · rwa [heq]
    · rw [heq]
      exact .cons (fun k hk => Nat.lt_succ_of_le (id_of_issued hk).2) ih

/-- No id is given out twice. -/
theorem nodup_issued (h : History) : ((issued serial h).map (·.id)).Nodup := by
  rw [List.Nodup, List.pairwise_map]
  exact (pairwise_issued h).imp fun hlt => Nat.ne_of_gt hlt

/-- What is kept is kept under a handle that was given out for its kind. -/
theorem exists_issued_of_kept? {h : History} {k : Handle}
    (hk : ((state serial h).kept? k).isSome) :
    ∃ k' ∈ issued serial h, k'.id = k.id ∧ k'.kind = k.kind := by
  induction h with
  | nil =>
    obtain ⟨id, _ | _ | _ | _, issuer⟩ := k <;> cases hk
  | cons r past ih =>
    rcases issued_cons serial r past with ⟨heq, hsheds⟩ | ⟨x, heq, hadd⟩
    · rw [heq]
      exact ih (hsheds.kept k hk)
    · rw [hadd] at hk
      rw [heq]
      rcases (State.isSome_kept?_add (fresh_state past) x k).1 hk with hk | ⟨hid, hkind⟩
      · obtain ⟨k', hmem, hk'⟩ := ih hk
        exact ⟨k', List.mem_cons_of_mem _ hmem, hk'⟩
      · exact ⟨_, List.mem_cons_self, hid.symm, hkind.symm⟩

/-! ## What is gone stays gone -/

/-- What is live has an id that was given out. -/
theorem le_of_isLive (hlive : (state serial past).isLive id = true) :
    id ≤ (state serial past).lastId := by
  obtain ⟨k, rfl, hk⟩ := State.isLive_iff.1 hlive
  exact fresh_state past k hk

/-- **Nothing comes under an id that was given out.** -/
theorem isLive_of_cons {r : Request} (hid : id ≤ (state serial past).lastId)
    (hlive : (state serial (r :: past)).isLive id = true) :
    (state serial past).isLive id = true := by
  rcases issued_cons serial r past with ⟨-, hsheds⟩ | ⟨x, -, hadd⟩
  · exact hsheds.isLive hlive
  · rw [hadd] at hlive
    rcases (State.isLive_add (fresh_state past) x).1 hlive with hlive | hnew
    · exact hlive
    · omega

theorem lastId_le_of_suffix (hsuffix : past <:+ later) :
    (state serial past).lastId ≤ (state serial later).lastId := by
  obtain ⟨since, rfl⟩ := hsuffix
  induction since with
  | nil => exact Nat.le_refl _
  | cons r since ih => exact Nat.le_trans ih (lastId_le_after (reached_state _).sound r)

/-- What was given out and is gone does not come back, whatever the driver is asked. -/
theorem isLive_of_suffix (hsuffix : past <:+ later) (hid : id ≤ (state serial past).lastId)
    (hlive : (state serial later).isLive id = true) : (state serial past).isLive id = true := by
  obtain ⟨since, rfl⟩ := hsuffix
  induction since with
  | nil => exact hlive
  | cons r since ih =>
    have hle : (state serial past).lastId ≤ (state serial (since ++ past)).lastId :=
      lastId_le_of_suffix (List.suffix_append since past)
    exact ih (isLive_of_cons (Nat.le_trans hid hle) hlive)

/-- **A handle that is dropped** takes the object away for which it was given out. -/
theorem isLive_release {k : Handle} (hk : k ∈ issued serial past) :
    (state serial (.release k :: past)).isLive k.id = false := by
  rw [Bool.eq_false_iff]
  intro hlive
  obtain ⟨k', hid, hk'⟩ := State.isLive_iff.1 hlive
  change (((state serial past).release k).kept? k').isSome at hk'
  -- What is left under the id was given out under it, and that was only `k`.
  obtain ⟨given, hgiven, hgid, hgkind⟩ :=
    exists_issued_of_kept? (((state serial past).sheds_release k).kept k' hk')
  obtain rfl := List.inj_on_of_nodup_map (nodup_issued past) hgiven hk (hgid.trans hid)
  rw [State.kept?_release, if_pos ⟨hid, by rw [hgkind]⟩] at hk'
  cases hk'

/-! ## What an id stands for -/

/-- An id stands for something as long as something is kept under it. -/
theorem isSome_born (h : History) (id : Nat) :
    (born serial h id).isSome = (state serial h).isLive id := by
  induction h with
  | nil => rfl
  | cons r past ih =>
    rw [born]
    cases hlive : (state serial (r :: past)).isLive id with
    | false => rfl
    | true =>
      rw [if_pos rfl]
      split
      · rfl
      · next hne =>
        have hissue := issue_after (state serial past) r
        change State.Issue _ _ (state serial (r :: past)) at hissue
        generalize (state serial past).gives? r = given, state serial (r :: past) = d at *
        rw [ih]
        cases hissue with
        | nothing h => exact h.isLive hlive
        | add x =>
          rcases (State.isLive_add (fresh_state past) x).1 hlive with hold | hnew
          · exact hold
          · simp [State.nextHandle, hnew] at hne

/-- An id that was given out does not come to stand for another object. -/
theorem born_cons {r : Request} (hid : id ≤ (state serial past).lastId)
    (hlive : (state serial (r :: past)).isLive id = true) :
    born serial (r :: past) id = born serial past id := by
  have hissue := issue_after (state serial past) r
  rw [born, if_pos hlive, if_neg]
  generalize (state serial past).gives? r = given, (state serial past).after r = d at hissue
  cases hissue with
  | nothing => exact Bool.false_ne_true
  | add x =>
    simp only [Option.any_some, State.nextHandle, beq_iff_eq]
    omega

theorem born_of_suffix (hsuffix : past <:+ later) (hid : id ≤ (state serial past).lastId)
    (hlive : (state serial later).isLive id = true) :
    born serial later id = born serial past id := by
  obtain ⟨since, rfl⟩ := hsuffix
  induction since with
  | nil => rfl
  | cons r since ih =>
    have hle : (state serial past).lastId ≤ (state serial (since ++ past)).lastId :=
      lastId_le_of_suffix (List.suffix_append since past)
    have hid' := Nat.le_trans hid hle
    exact (born_cons hid' hlive).trans (ih (isLive_of_cons hid' hlive))

/-- **What an id stands for**, it stands for as long as there is anything under it. -/
theorem born_or_gone (hsuffix : past <:+ later) (hlive : (state serial past).isLive id = true) :
    ∃ n, born serial past id = some n ∧
      (born serial later id = some n ∨ (state serial later).isLive id = false) := by
  obtain ⟨n, hn⟩ := Option.isSome_iff_exists.1 ((isSome_born past id).trans hlive)
  refine ⟨n, hn, ?_⟩
  cases hlater : (state serial later).isLive id with
  | false => exact .inr rfl
  | true => exact .inl ((born_of_suffix hsuffix (le_of_isLive hlive) hlater).trans hn)

/-! ## Ids in slots and launches -/

theorem Bound.of_suffix {earlier : History} (h : Bound serial past index id earlier)
    (hsuffix : past <:+ later) : Bound serial later index id earlier := by
  obtain ⟨kernel, m, hdid, hm⟩ := h
  exact ⟨kernel, m, ⟨hdid.suffix.trans hsuffix, hdid.accepted⟩, hm⟩

theorem Bound.suffix {earlier : History} (h : Bound serial past index id earlier) :
    earlier <:+ past := by
  obtain ⟨kernel, m, hdid, -⟩ := h
  exact (List.suffix_cons _ _).trans hdid.suffix

/-- Memory is bound while the driver keeps it. -/
theorem Bound.isLive {earlier : History} (h : Bound serial past index id earlier) :
    (state serial earlier).isLive id = true := by
  obtain ⟨kernel, m, hdid, rfl⟩ := h
  obtain ⟨hkept, -⟩ := (tries_setArgument kernel index (.memory m)).of_accepts rfl hdid.accepted
  rw [State.isLive, hkept m.handle.id rfl]
  rfl

/-- Memory that was last set for a slot was bound. -/
theorem exists_bound_of_lastSet {kernel : Nat}
    (h : lastSet serial past kernel index = some (.memory id)) :
    ∃ earlier, Bound serial past index id earlier := by
  induction past generalizing kernel with
  | nil => cases h
  | cons r past ih =>
    have hcons : (∃ earlier, Bound serial past index id earlier) →
        ∃ earlier, Bound serial (r :: past) index id earlier := fun ⟨earlier, hb⟩ =>
      ⟨earlier, hb.of_suffix (List.suffix_cons r past)⟩
    rw [lastSet] at h
    split at h
    · next ha =>
      cases r with
      | setArgument k i value =>
        rw [Request.sets] at h
        split at h
        · next heq =>
          obtain ⟨-, rfl⟩ := heq
          cases value with
          | bytes bytes => cases h
          | memory m =>
            obtain rfl := Argument.memory.inj (Option.some.inj h)
            exact ⟨past, k, m, ⟨List.suffix_refl _, ha⟩, rfl⟩
        · exact hcons (ih h)
      | cloneKernel k => exact hcons (ih h)
      | _ => exact hcons (ih h)
    · exact hcons (ih h)

end History

/-- An id is stored as the argument of an index: in the slot of a kernel, or in a launch. -/
inductive State.Stores (d : State) (index id : Nat) : Prop
  | slot {key : Nat} {k : Kernel} : d.kernels.get? key = some k →
      k.slots[index]? = some (some (.memory id)) → Stores d index id
  | launch {l : Launch} : l ∈ d.launches → l.arguments[index]? = some (.memory id) →
      Stores d index id

namespace History

variable {serial : Nat} {past : History} {index id : Nat}

/-- **Every id that is stored** was bound. -/
theorem exists_bound (h : (state serial past).Stores index id) :
    ∃ earlier, Bound serial past index id earlier := by
  cases h with
  | @slot key k hk hslot =>
    have hlt : index < k.slots.length := (List.getElem?_eq_some_iff.1 hslot).1
    have hset := (explained serial past).slots key k hk index hlt
    exact exists_bound_of_lastSet (Option.some.inj (hset.symm.trans hslot))
  | @launch l hl harg =>
    obtain ⟨-, kernel, earlier, hdid, -, hset⟩ := (explained serial past).launches l hl
    have hlt : index < l.arguments.length := (List.getElem?_eq_some_iff.1 harg).1
    obtain ⟨moment, hb⟩ := exists_bound_of_lastSet ((hset index hlt).trans harg)
    exact ⟨moment, hb.of_suffix ((List.suffix_cons _ _).trans hdid.suffix)⟩

/-- The ids that fit into a word are below `2 ^ 64`. -/
def idBound : Nat := 0x10000000000000000

/-- **Ids are never given out twice.** Take any history of a driver in which fewer than `2 ^ 64`
objects are created, with whatever requests and handles, done or refused. The handles that were
given out have different ids, whatever their kinds, and each fits into a word. Under the id of a
handle that was given out and dropped there is nothing any more. And an id of memory that was at
some moment in a slot of a kernel or in a recorded launch was bound as the argument of that index;
whenever it was bound, it stood for an object, and now it stands for that very object or for none.
-/
theorem ids_never_reused (serial : Nat) (h : History)
    (hcount : (issued serial h).length < idBound) :
    ((issued serial h).map (·.id)).Nodup ∧
    (∀ k ∈ issued serial h, 0 < k.id ∧ k.id < idBound) ∧
    (∀ k earlier, k ∈ issued serial earlier → .release k :: earlier <:+ h →
      (state serial h).isLive k.id = false) ∧
    ∀ past index id, past <:+ h → (state serial past).Stores index id →
      (∃ earlier, Bound serial past index id earlier) ∧
      ∀ earlier, Bound serial past index id earlier →
        ∃ n, born serial earlier id = some n ∧
          (born serial h id = some n ∨ (state serial h).isLive id = false) := by
  refine ⟨nodup_issued h, fun k hk => ?_, fun k earlier hk hsuffix => ?_,
    fun past index id hsuffix hstored => ?_⟩
  · have hid := id_of_issued hk
    rw [length_issued] at hcount
    exact ⟨hid.1, Nat.lt_of_le_of_lt hid.2 hcount⟩
  · rw [Bool.eq_false_iff]
    intro hlive
    have hid : k.id ≤ (state serial (.release k :: earlier)).lastId := by
      change k.id ≤ ((state serial earlier).release k).lastId
      rw [State.lastId_release]
      exact (id_of_issued hk).2
    exact absurd (isLive_of_suffix hsuffix hid hlive) (by rw [isLive_release hk]; simp)
  · exact ⟨exists_bound hstored, fun earlier hb =>
      born_or_gone (hb.suffix.trans hsuffix) hb.isLive⟩

/-- Memory is bound and launched, its handle is dropped, and another buffer is created. -/
def ofDropped : History :=
  [.createBuffer 16,
    .release ⟨3, .buffer, some 0⟩,
    .enqueueKernel ⟨2, .kernel, some 0⟩ [4] none,
    .setArgument ⟨2, .kernel, some 0⟩ 0 (.memory (.ofBuffer ⟨3, .buffer, some 0⟩ 16)),
    .createBuffer 16,
    .createKernel ⟨1, .program, some 0⟩ "f",
    .buildProgram ⟨1, .program, some 0⟩ "",
    .createProgram "kernel void f(global int* a) {}"]

/-- The id in the slot and in the launch stands for nothing any more, though there is a buffer of
the same size. -/
theorem ids_never_reused_of_dropped :
    (issued 0 ofDropped).map (·.id) = [4, 3, 2, 1] ∧
      (state 0 ofDropped).Stores 0 3 ∧ (state 0 ofDropped).isLive 3 = false ∧
      ∃ earlier n, Bound 0 ofDropped 0 3 earlier ∧ born 0 earlier 3 = some n := by
  have hids : (issued 0 ofDropped).map (·.id) = [4, 3, 2, 1] := by decide +kernel
  have hcount : (issued 0 ofDropped).length < idBound := by
    rw [← List.length_map (·.id), hids]
    decide
  have hstored : (state 0 ofDropped).Stores 0 3 :=
    .launch (l := ⟨"f", [4], none, [.memory 3]⟩) (by decide +kernel) rfl
  obtain ⟨-, -, hdropped, hstands⟩ := ids_never_reused 0 ofDropped hcount
  obtain ⟨⟨earlier, hbound⟩, hborn⟩ := hstands ofDropped 0 3 (List.suffix_refl _) hstored
  obtain ⟨n, hn, -⟩ := hborn earlier hbound
  have hgone : (state 0 ofDropped).isLive 3 = false :=
    hdropped ⟨3, .buffer, some 0⟩ (ofDropped.drop 2) (by decide +kernel) (List.suffix_cons _ _)
  exact ⟨hids, hstored, hgone, earlier, n, hbound, hn⟩

end History

end DriverBench.Simulator
