import DriverBench.Proofs.Expression.Recursion
import DriverBench.Proofs.Expression.Spares
import DriverBench.Proofs.Simulator.Arrays
import DriverBench.Command.Save
import DriverBench.Proofs.Command.Launch
import DriverBench.Proofs.Session.Switch
/-!
# Saving by way of the device

What is saved of an object of the host are its bytes, or a picture of them. Of memory of the device
it is what the driver reads back, or a picture of that. Memory that was made from an object of the
host holds the bytes of that object (`Stores`), reading it back gives all of them in their order,
and so both ways lead to the same file, or to the same failure of the codec.
-/

namespace DriverBench

open Device Number Raster Simulator

namespace Simulator

/-! ## Memory that is made from bytes -/

section Made

variable {d : State}

theorem gives_createBuffer {size : Nat} (hne : size ≠ 0) (hlt : size < allocationLimit) :
    (createBuffer size).Gives d (.ofBuffer (d.nextHandle .buffer) size)
      (d.add (.memory ⟨List.replicate size 0, none⟩)) := by
  unfold Call.Gives createBuffer zeroed
  rw [if_neg hne, if_neg (Nat.not_le.2 hlt)]
  rfl

theorem gives_writeBuffer {m : Memory} {bytes : List UInt8}
    (he : d.memories.get? m.handle.id = some ⟨bytes, none⟩) {offset : Nat} {data : List UInt8}
    (h : offset + data.length ≤ bytes.length) :
    (writeBuffer m offset data).Gives d ()
      (d.withBytes m.handle.id (overwrite bytes offset data)) := by
  unfold Call.Gives writeBuffer storageOf
  rw [bind_assoc, Action.run_get_bind, he]
  simp only [orFail, pure_bind, checkRange, Option.isSome_none, Bool.false_eq_true, if_false,
    if_pos h]
  rfl

/-- An image can be made from data that suffices for it. -/
theorem gives_createImage {format : ImageFormat} {desc : ImageDesc} {data : List UInt8}
    (hwidth : desc.width ≠ 0) (hdata : desc.byteSize format ≤ data.length)
    (hlt : desc.byteSize format < allocationLimit) :
    (createImage format desc (some data)).Gives d (.ofImage (d.nextHandle .image) format desc)
      (d.add (.memory ⟨data.take (desc.byteSize format), some (format, desc)⟩)) := by
  have hsize : desc.byteSize format ≠ 0 := by
    rw [byteSize_eq_exactSize hlt, ImageDesc.exactSize, ImageDesc.rows]
    have hpixel := format.pixelSize_pos
    simp only [ne_eq, Nat.mul_eq_zero, not_or]
    omega
  unfold Call.Gives createImage zeroed
  rw [if_neg (by simp [hwidth, hsize]), if_neg (by simpa using hdata), if_neg (Nat.not_le.2 hlt)]
  rfl

theorem get?_add_memory (d : State) (e : Storage) :
    (d.add (.memory e)).memories.get? (d.lastId + 1) = some e :=
  (Table.get?_insert _ _ _ _).trans (if_pos rfl)

end Made

/-- The bytes of an image are those of its rows. -/
theorem exactSize_eq_rows (desc : ImageDesc) (format : ImageFormat) :
    desc.exactSize format = desc.rows * (desc.width * format.pixelSize) := by
  rw [ImageDesc.exactSize, Nat.mul_comm desc.width desc.rows, Nat.mul_assoc]

/-- All rows of an image behind each other are the image. -/
theorem flatten_gather_rows {bytes : List UInt8} {format : ImageFormat} {desc : ImageDesc}
    (h : bytes.length = desc.exactSize format) :
    (gather bytes (desc.width * format.pixelSize)
      (rowsOf format desc (0, 0, 0) desc.region).1).flatten = bytes := by
  generalize hpitch : desc.width * format.pixelSize = pitch
  have hrows : (rowsOf format desc (0, 0, 0) desc.region).1 =
      (List.range desc.rows).map (· * pitch) := by
    simp [rowsOf, ImageDesc.region, hpitch]
  have hlength : bytes.length = desc.rows * pitch := by rw [h, exactSize_eq_rows, hpitch]
  -- The rows up to any one of them are the front of the bytes.
  have hfront : ∀ n ≤ desc.rows,
      (gather bytes pitch ((List.range n).map (· * pitch))).flatten = bytes.take (n * pitch) := by
    intro n
    induction n with
    | zero => simp [gather]
    | succ n ih =>
      intro hn
      rw [List.range_succ, List.map_append, gather, List.map_append, List.flatten_append, ← gather,
        ih (Nat.le_of_succ_le hn), Nat.succ_mul, List.take_add]
      simp [slice]
  rw [hrows, hfront _ (Nat.le_refl _), ← hlength, List.take_length]

theorem fits_region {desc : ImageDesc} (hwidth : desc.width ≠ 0) :
    fits desc (0, 0, 0) desc.region = true := by
  have hrows : desc.rows ≠ 0 := by
    unfold ImageDesc.rows
    omega
  simp [fits, ImageDesc.region, hwidth, hrows]

/-- **A whole image** is read back as it is. -/
theorem gives_readImage_whole {d : State} {m : Memory} {bytes : List UInt8} {format : ImageFormat}
    {desc : ImageDesc} (he : d.memories.get? m.handle.id = some ⟨bytes, some (format, desc)⟩)
    (hwidth : desc.width ≠ 0) (hlength : bytes.length = desc.exactSize format)
    {room : List UInt8} (hroom : room.length = bytes.length) :
    (readImage m (0, 0, 0) desc.region room).Gives d bytes d := by
  have hfits : fits desc (0, 0, 0) desc.region = true := fits_region hwidth
  have hcount : desc.rows * (desc.width * format.pixelSize) = bytes.length := by
    rw [hlength, exactSize_eq_rows]
  have hread : overwrite room 0 (gather bytes (desc.width * format.pixelSize)
      (rowsOf format desc (0, 0, 0) desc.region).1).flatten = bytes := by
    rw [flatten_gather_rows hlength]
    exact overwrite_all hroom.symm
  unfold Call.Gives readImage storageOf
  rw [bind_assoc, Action.run_get_bind, he]
  simp only [orFail, pure_bind, imageOf, checkedRows, if_pos hfits, length_rowsOf, snd_rowsOf]
  rw [if_neg (by simp only [ImageDesc.region]; omega)]
  exact congrArg (fun read => (Except.ok read, d)) hread

end Simulator

namespace Session

/-! ## What is saved -/

/-- What `save` puts into a file of a path for an object. -/
def saved (s : Session) (path : String) (o : Object) : Except Failure (List UInt8) :=
  ((Statement.fileBytes path o).run.run s).1

/-- The driver in use has bytes in memory of a form, all of what the size of the memory says. -/
structure Stores (s : Session) (m : Memory) (form : Option (ImageFormat × ImageDesc))
    (bytes : List UInt8) : Prop where
  kept : ∃ d, s.driver? = some d ∧ d.memories.get? m.handle.id = some ⟨bytes, form⟩
  image : m.image = form
  size : m.size = bytes.length

variable {s : Session} {m : Memory} {form : Option (ImageFormat × ImageDesc)} {bytes : List UInt8}

theorem Stores.of_driver? {t : Session} (h : s.Stores m form bytes) (ht : t.driver? = s.driver?) :
    t.Stores m form bytes :=
  ⟨ht ▸ h.kept, h.image, h.size⟩

/-- A call of the driver that has the bytes and stays as it is. -/
theorem Stores.gives_drive {α : Type} {c : Call α} {a : α} (h : s.Stores m form bytes)
    (hc : ∀ d : State, d.memories.get? m.handle.id = some ⟨bytes, form⟩ → c.Gives d a d) :
    (Action.drive c).Gives s a s := by
  obtain ⟨d, hd, he⟩ := h.kept
  obtain ⟨n, hn, hget⟩ := exists_of_driver? hd
  have hdrive := Action.gives_drive hn hget (hc d he)
  rwa [withDriver_self hget] at hdrive

theorem reserve_eq {size : Nat} (h : size < allocationLimit) :
    Statement.reserve size = .ok (List.replicate size 0) := by
  have hlimit : allocationLimit ≤ Statement.reserveLimit := by decide
  rw [Statement.reserve, if_neg (by omega), if_neg (by omega)]

/-- **A buffer** is saved as the bytes that are in it. -/
theorem Stores.saved_buffer (h : s.Stores m none bytes) (hlt : bytes.length < allocationLimit)
    (path : String) : s.saved path (.memory m) = .ok bytes := by
  have hread : (Action.drive (readBuffer m 0 m.size)).Gives s bytes s := by
    refine h.gives_drive fun d he => ?_
    have hin : 0 + bytes.length ≤ bytes.length := by omega
    have hgives := gives_readBuffer he hin
    rw [slice, List.drop_zero, List.take_length] at hgives
    rw [h.size]
    exact hgives
  change ((Statement.memoryFile path m).run.run s).1 = _
  unfold Statement.memoryFile
  rw [reserve_eq (h.size ▸ hlt), h.image]
  exact congrArg Prod.fst hread

/-- **An image of the device** is saved as the image of the host with the same pixels: as the same
bytes, or not for the same reason. -/
theorem Stores.saved_image {format : ImageFormat} {desc : ImageDesc}
    (h : s.Stores m (some (format, desc)) bytes) (hwidth : desc.width ≠ 0)
    (hlength : bytes.length = desc.exactSize format) (hlt : bytes.length < allocationLimit)
    (path label : String) :
    s.saved path (.memory m) = s.saved path (.image ⟨⟨bytes, label⟩, format, desc⟩) := by
  have hread : (Action.drive (readImage m (0, 0, 0) desc.region
      (List.replicate m.size 0))).Gives s bytes s :=
    h.gives_drive fun d he => gives_readImage_whole he hwidth hlength
      (by rw [List.length_replicate, h.size])
  change ((Statement.memoryFile path m).run.run s).1 =
    ((Statement.imageFile path format desc bytes).run.run s).1
  unfold Statement.memoryFile
  rw [reserve_eq (h.size ▸ hlt), h.image]
  unfold Action.Gives at hread
  dsimp only
  rw [Action.run_bind, hread]

/-- What the codec has no picture file for is saved as it is. -/
theorem saved_image_of_none {i : Image} {path : String}
    (h : s.codec.encode path i.format i.desc i.data.bytes = .ok none) :
    s.saved path (.image i) = .ok i.data.bytes := by
  change ((Statement.imageFile path i.format i.desc i.data.bytes).run.run s).1 = _
  unfold Statement.imageFile
  rw [Action.run_get_bind, h]
  rfl

end Session

namespace Reading

/-! ## What the tokens ask for -/

/-- The part of data of a size that is asked for by the tokens behind the data, as its start and its
length, and whether a greater length is asked for than there is. -/
inductive AsksFor (size : Nat) : List Token → Nat → Nat → Prop → List Token → Prop
  | whole {close : Token} {rest : List Token} : close.kind = .closeParen →
      AsksFor size (close :: rest) 0 size False rest
  | behind {comma first close : Token} {rest : List Token} {start : Nat} :
      comma.kind = .comma → IsSize first start → start < size → close.kind = .closeParen →
      AsksFor size (comma :: first :: close :: rest) start (size - start) False rest
  | part {comma first comma' second close : Token} {rest : List Token} {start length : Nat} :
      comma.kind = .comma → IsSize first start → start < size →
      comma'.kind = .comma → IsSize second length → length ≠ 0 → close.kind = .closeParen →
      AsksFor size (comma :: first :: comma' :: second :: close :: rest) start
        (min length (size - start)) (size - start < length) rest

/-- The form of an image, as the tokens behind the data say it: width, height, order and type. -/
inductive NamesForm : List Token → ImageFormat → ImageDesc → List Token → Prop
  | mk {comma₁ first comma₂ second comma₃ third comma₄ fourth close : Token} {rest : List Token}
      {width height : Nat} {order : ChannelOrder} {type : ChannelType} :
      comma₁.kind = .comma → IsSize first width → width ≠ 0 →
      comma₂.kind = .comma → IsSize second height →
      comma₃.kind = .comma → ChannelOrder.ofName? third.text = some order →
      comma₄.kind = .comma → Text.choose fourth.text ChannelType.name ChannelType.all = .one type →
      close.kind = .closeParen →
      NamesForm (comma₁ :: first :: comma₂ :: second :: comma₃ :: third :: comma₄ :: fourth ::
        close :: rest) ⟨order, type⟩ (.ofSize width height) rest

theorem NamesForm.width_ne_zero {tokens rest : List Token} {format : ImageFormat}
    {desc : ImageDesc} (h : NamesForm tokens format desc rest) : desc.width ≠ 0 := by
  cases h
  unfold ImageDesc.ofSize
  split <;> assumption

theorem AsksFor.in_size {size start length : Nat} {cut : Prop} {tokens rest : List Token}
    (h : AsksFor size tokens start length cut rest) (hsize : size ≠ 0) :
    start + length ≤ size ∧ length ≠ 0 := by
  cases h <;> omega

section Parts

variable {line : String} {s : Session} {tokens rest : List Token}

theorem gives_sizeArgument {what : String} {t : Token} {n : Nat} (ht : IsSize t n) :
    Gives (sizeArgument what) ⟨line, t :: rest⟩ s (n, t) ⟨line, rest⟩ s :=
  gives_numberArgument ht.1 ht.2

theorem gives_lengthArgument {t : Token} {n : Nat} (ht : IsSize t n) (hn : n ≠ 0) :
    Gives (lengthArgument .size) ⟨line, t :: rest⟩ s n ⟨line, rest⟩ s := by
  refine (gives_sizeArgument ht).bind ?_
  dsimp only
  rw [if_neg hn]
  exact gives_pure n

/-- A note is made if it is wanted, and then the output has to work. -/
theorem gives_note {text : String} (h : s.options.verbose = true → s.out.broken = none)
    (c : Cursor) : Gives (liftM (Action.note text)) c s () c (s.tell text) := by
  refine gives_liftM ?_
  unfold Action.Gives
  by_cases hv : s.options.verbose = true
  · have hnote := Action.ensures_note text s s rfl
    rcases hr : (Action.note text).run.run s with ⟨f | u, s'⟩
    · rw [hr] at hnote
      exact absurd (h hv) hnote
    · rw [hr] at hnote
      rw [hnote]
  · unfold Action.note
    rw [Action.run_get_bind, if_neg hv, Session.tell, if_neg hv]
    rfl

/-- **The part of the data** that is asked for is found; at most a note is made. -/
theorem gives_dataPart {size start length : Nat} {cut : Prop}
    (h : AsksFor size tokens start length cut rest)
    (hnote : cut → s.options.verbose = true → s.out.broken = none) :
    ∃ close out, close.kind = .closeParen ∧
      Gives (dataPart size) ⟨line, tokens⟩ s (start, length) ⟨line, close :: rest⟩
        { s with out := { s.out with text := out } } := by
  unfold dataPart
  cases h with
  | @whole close _ hclose =>
    refine ⟨close, s.out.text, hclose, ?_⟩
    refine (gives_skip_of_ne ?_).bind (gives_pure _)
    rw [hclose]
    decide
  | @behind comma first close _ _ hcomma hfirst hstart hclose =>
    refine ⟨close, s.out.text, hclose, ?_⟩
    refine (gives_skip hcomma).bind ((gives_sizeArgument hfirst).bind ?_)
    dsimp only
    rw [if_neg (by omega)]
    refine (gives_skip_of_ne ?_).bind (gives_pure _)
    rw [hclose]
    decide
  | @part comma first comma' second close _ _ requested hcomma hfirst hstart hcomma' hsecond hne
      hclose =>
    have hlength : Gives (lengthArgument .size) ⟨line, second :: close :: rest⟩ s requested
        ⟨line, close :: rest⟩ s := gives_lengthArgument hsecond hne
    have hfound : ∃ out, Gives (do
          if size - start < requested then
            Action.note (cutNote "データ" requested (size - start))
          return (start, min requested (size - start))) ⟨line, close :: rest⟩ s
        (start, min requested (size - start)) ⟨line, close :: rest⟩
        { s with out := { s.out with text := out } } := by
      by_cases hcut : size - start < requested
      · obtain ⟨out, heq⟩ := s.tell_eq (cutNote "データ" requested (size - start))
        refine ⟨out, ?_⟩
        rw [if_pos hcut, ← heq]
        exact (gives_note (hnote hcut) _).bind (gives_pure _)
      · refine ⟨s.out.text, ?_⟩
        rw [if_neg hcut]
        exact gives_pure _
    obtain ⟨out, hfound⟩ := hfound
    refine ⟨close, out, hclose, ?_⟩
    refine (gives_skip hcomma).bind ((gives_sizeArgument hfirst).bind ?_)
    dsimp only
    rw [if_neg (by omega)]
    exact (gives_skip hcomma').bind (hlength.bind hfound)

/-- **The form of an image** is found. -/
theorem gives_imageForm {format : ImageFormat} {desc : ImageDesc}
    (h : NamesForm tokens format desc rest) :
    ∃ comma more close, tokens = comma :: more ∧ comma.kind = .comma ∧ close.kind = .closeParen ∧
      Gives imageForm ⟨line, more⟩ s (format, desc) ⟨line, close :: rest⟩ s := by
  cases h with
  | @mk _ first comma₂ second comma₃ third comma₄ fourth close _ width height order type hcomma₁
      hfirst hwidth hcomma₂ hsecond hcomma₃ horder hcomma₄ htype hclose =>
    refine ⟨_, _, close, rfl, hcomma₁, hclose, ?_⟩
    have hwidthArgument : ∀ more,
        Gives widthArgument ⟨line, first :: more⟩ s width ⟨line, more⟩ s := by
      intro more
      refine (gives_sizeArgument hfirst).bind ?_
      dsimp only
      rw [if_neg hwidth]
      exact gives_pure _
    have horderToken : ∀ more,
        Gives channelOrder ⟨line, third :: more⟩ s order ⟨line, more⟩ s := by
      intro more
      refine gives_consume.bind ?_
      rw [horder]
      exact gives_pure _
    have htypeToken : ∀ more, Gives channelType ⟨line, fourth :: more⟩ s type ⟨line, more⟩ s := by
      intro more
      refine gives_consume.bind ?_
      rw [htype]
      exact gives_pure _
    refine (hwidthArgument _).bind ((gives_comma hcomma₂).bind ?_)
    refine (gives_sizeArgument hsecond).bind ?_
    refine (gives_comma hcomma₃).bind ((horderToken _).bind ((gives_comma hcomma₄).bind ?_))
    exact (htypeToken _).bind (gives_pure _)

end Parts

/-! ## Memory that an expression makes -/

section Made

variable {line : String} {s s₁ s₂ : Session} {c₁ c₂ : Cursor} {tokens rest : List Token}
  {source : Entity} {operand : Token}

/-- Bytes that are written into a new buffer are in it. -/
theorem gives_bufferOf {bytes : List UInt8} (hdriver : s.driver?.isSome) (hne : bytes ≠ [])
    (hlt : bytes.length < allocationLimit) (c : Cursor) :
    ∃ m s', Gives (bufferOf bytes) c s m c s' ∧ s'.Stores m none bytes := by
  obtain ⟨d, hd⟩ := Option.isSome_iff_exists.1 hdriver
  obtain ⟨n, hn, hget⟩ := Session.exists_of_driver? hd
  let m : Memory := .ofBuffer (d.nextHandle .buffer) bytes.length
  let d₁ : State := d.add (.memory ⟨List.replicate bytes.length 0, none⟩)
  have he : d₁.memories.get? m.handle.id = some ⟨List.replicate bytes.length 0, none⟩ :=
    get?_add_memory d _
  have hcreate : (Action.drive (createBuffer bytes.length)).Gives s m (s.withDriver n d₁) :=
    Action.gives_drive hn hget (gives_createBuffer (by simpa using hne) hlt)
  -- What is written takes the place of all the zeros.
  have hwrite : (writeBuffer m 0 bytes).Gives d₁ () (d₁.withBytes m.handle.id bytes) := by
    have h := gives_writeBuffer he (Nat.le_of_eq (by simp) : 0 + bytes.length ≤ _)
    rwa [overwrite_all (by simp)] at h
  have hdrive := Action.gives_drive (s := s.withDriver n d₁) hn (Session.get?_withDriver hget d₁)
    hwrite
  refine ⟨m, _, (gives_liftM hcreate).bind (((gives_liftM hdrive).bind (gives_pure m)).undoing _),
    ⟨_, ?_, State.get?_withBytes_self he bytes⟩, rfl, rfl⟩
  rw [Session.withDriver_withDriver]
  exact Session.driver?_withDriver hn hget _

/-- To keep the source of what is written is no matter of the driver. -/
theorem gives_keepInFlight (hdriver : s.driver?.isSome) (e : Entity) (c : Cursor) :
    ∃ s', Gives (keepInFlight e) c s () c s' ∧ s'.driver? = s.driver? := by
  obtain ⟨d, hd⟩ := Option.isSome_iff_exists.1 hdriver
  have hactive : Gives (liftM Action.activeDriver) c s d c s := gives_activeDriver hd
  cases hb : d.blocking with
  | true =>
    refine ⟨s, hactive.bind ?_, rfl⟩
    rw [hb]
    exact gives_pure ()
  | false =>
    refine ⟨{ s with inFlight := s.inFlight ++ [e] }, hactive.bind ?_, rfl⟩
    rw [hb]
    exact gives_change _

theorem gives_filledBuffer {d : Data} (hsource : source.object.data? = some d)
    (hdriver : s.driver?.isSome) (hne : d.bytes ≠ []) (hlt : d.bytes.length < allocationLimit)
    {start length : Nat} {cut : Prop} (h : AsksFor d.bytes.length tokens start length cut rest)
    (hnote : cut → s.options.verbose = true → s.out.broken = none) :
    ∃ m s', Gives (filledBuffer operand source) ⟨line, tokens⟩ s (.memory m) ⟨line, rest⟩ s' ∧
      s'.Stores m none (slice d.bytes start length) := by
  obtain ⟨hin, hlength⟩ := h.in_size (by simpa using hne)
  have hslice := length_slice hin
  have hfull : slice d.bytes start length ≠ [] := by
    rw [← List.length_pos_iff]
    omega
  obtain ⟨close, out, hclose, hpart⟩ := @gives_dataPart line _ _ _ _ _ _ _ h hnote
  obtain ⟨m, s₁, hbuffer, hstores⟩ := gives_bufferOf
    (s := { s with out := { s.out with text := out } }) hdriver hfull (by omega) ⟨line, rest⟩
  obtain ⟨d₁, hd₁, -⟩ := hstores.kept
  obtain ⟨s₂, hkeep, hsame⟩ := gives_keepInFlight (by rw [hd₁]; rfl) source ⟨line, rest⟩
  refine ⟨m, s₂, ?_, hstores.of_driver? hsame⟩
  unfold filledBuffer
  rw [hsource]
  exact hpart.bind ((gives_closeArguments hclose).bind (hbuffer.bind (hkeep.bind (gives_pure _))))

/-- An image of the device is made of pixels that suffice for it. -/
theorem gives_image {format : ImageFormat} {desc : ImageDesc} {bytes : List UInt8}
    (hdriver : s.driver?.isSome) (hwidth : desc.width ≠ 0)
    (hdata : desc.byteSize format ≤ bytes.length) (hlt : desc.byteSize format < allocationLimit)
    {close : Token} (hclose : close.kind = .closeParen) :
    ∃ m s', Gives (do
        closeArguments
        let m ← Action.drive (createImage format desc (some bytes))
        return Object.memory m) ⟨line, close :: rest⟩ s (.memory m) ⟨line, rest⟩ s' ∧
      s'.Stores m (some (format, desc)) (bytes.take (desc.byteSize format)) := by
  obtain ⟨d, hd⟩ := Option.isSome_iff_exists.1 hdriver
  obtain ⟨n, hn, hget⟩ := Session.exists_of_driver? hd
  have hcreate := Action.gives_drive hn hget (gives_createImage hwidth hdata hlt)
  refine ⟨_, _, (gives_closeArguments hclose).bind ((gives_liftM hcreate).bind (gives_pure _)),
    ⟨_, Session.driver?_withDriver hn hget _, get?_add_memory d _⟩, rfl, ?_⟩
  rw [List.length_take_of_le hdata]
  rfl

theorem gives_filledImage_of_image {i : Image} (hsource : source.object = .image i)
    (hdriver : s.driver?.isSome) (hwidth : i.desc.width ≠ 0)
    (hdata : i.data.bytes.length = i.desc.byteSize i.format)
    (hlt : i.data.bytes.length < allocationLimit) {close : Token}
    (hclose : close.kind = .closeParen) :
    ∃ m s', Gives (filledImage operand source) ⟨line, close :: rest⟩ s (.memory m)
        ⟨line, rest⟩ s' ∧
      s'.Stores m (some (i.format, i.desc)) i.data.bytes := by
  obtain ⟨m, s', hmade, hstores⟩ := @gives_image line _ rest _ _ _ hdriver hwidth
    (Nat.le_of_eq hdata.symm) (hdata ▸ hlt) _ hclose
  refine ⟨m, s', ?_, by rwa [← hdata, List.take_length] at hstores⟩
  have himage : Gives (imageFromImage operand source) ⟨line, close :: rest⟩ s
      (i.format, i.desc, i.data.bytes) ⟨line, close :: rest⟩ s := by
    unfold imageFromImage
    rw [hsource]
    exact gives_pure _
  refine (gives_skip_of_ne (by rw [hclose]; decide)).bind ?_
  exact himage.bind hmade

/-- The front of the data is what fills an image that it suffices for. -/
theorem gives_imageFromData {d : Data} (hsource : source.object.data? = some d)
    {format : ImageFormat} {desc : ImageDesc} {more : List Token}
    (hform : Gives imageForm ⟨line, more⟩ s (format, desc) ⟨line, rest⟩ s)
    (hdata : desc.byteSize format ≤ d.bytes.length) :
    Gives (imageFromData operand source) ⟨line, more⟩ s
      (format, desc, d.bytes.take (desc.byteSize format)) ⟨line, rest⟩ s := by
  unfold imageFromData
  rw [hsource]
  refine hform.bind ?_
  dsimp only
  rw [if_neg (Nat.not_lt.2 hdata)]
  exact gives_pure _

theorem gives_filledImage_of_data {d : Data} (hsource : source.object.data? = some d)
    (hdriver : s.driver?.isSome) {format : ImageFormat} {desc : ImageDesc}
    (h : NamesForm tokens format desc rest) (hdata : desc.byteSize format ≤ d.bytes.length)
    (hlt : desc.byteSize format < allocationLimit) :
    ∃ m s', Gives (filledImage operand source) ⟨line, tokens⟩ s (.memory m) ⟨line, rest⟩ s' ∧
      s'.Stores m (some (format, desc)) (d.bytes.take (desc.byteSize format)) := by
  obtain ⟨comma, more, close, rfl, hcomma, hclose, hform⟩ := @gives_imageForm line s _ _ _ _ h
  have htake : (d.bytes.take (desc.byteSize format)).length = desc.byteSize format :=
    List.length_take_of_le hdata
  have hsame : desc.byteSize format ≤ (d.bytes.take (desc.byteSize format)).length :=
    Nat.le_of_eq htake.symm
  obtain ⟨m, s', hmade, hstores⟩ := @gives_image line _ rest _ _ _ hdriver h.width_ne_zero
    hsame hlt _ hclose
  refine ⟨m, s', ?_, by rwa [List.take_of_length_le (Nat.le_of_eq htake)] at hstores⟩
  refine (gives_skip hcomma).bind ?_
  exact (gives_imageFromData hsource hform hdata).bind hmade

/-- What an expression starts with is no number and no quoted text. -/
theorem plain?_eq_none {first : Token} {more : List Token}
    (h : Gives (evaluateFrom (first :: more)) ⟨line, first :: more⟩ s source c₁ s₁)
    (d : Derivation) : plain? d first.kind = none := by
  unfold plain?
  split
  · next hkind =>
    unfold evaluateFrom at h
    rw [hkind] at h
    cases h
  · next hkind =>
    unfold evaluateFrom at h
    rw [hkind] at h
    cases h
  · rfl

/-- A bound name denotes what it is bound to. -/
theorem gives_evaluateFrom_name {t : Token} {e : Entity} (ht : t.kind = .word)
    (he : s.env.lookup t.text = some e) :
    Gives (evaluateFrom (t :: rest)) ⟨line, t :: rest⟩ s e ⟨line, rest⟩ s := by
  rw [evaluateFrom.eq_def]
  dsimp only
  rw [ht]
  refine gives_advance.bind (gives_session.bind ?_)
  rw [he]
  exact gives_pure e

/-- **A derivation** is its word and the parenthesis, an expression that denotes the object, and
what is read behind that while the object is held. -/
theorem run_construct_derived (word : Token) {opening first : Token} {more : List Token}
    {d : Derivation} (hneeds : d.needsDriver = true) (hdriver : s.driver?.isSome)
    (hopening : opening.kind = .openParen)
    (hsource : Gives (evaluateFrom (first :: more)) ⟨line, first :: more⟩ s source c₁ s₁) :
    (construct (.derived d) word evaluate).run ⟨line, opening :: first :: more⟩ s =
      (holding source (derive d first source)).run c₁ s₁ := by
  have hderived : (derivedObject d evaluate).run ⟨line, first :: more⟩ s =
      (holding source (derive d first source)).run c₁ s₁ := by
    unfold derivedObject
    rw [gives_current.bind_run, plain?_eq_none hsource]
    exact Gives.bind_run hsource _
  unfold construct
  dsimp only
  rw [if_pos hneeds, (gives_requireDriver hdriver).bind_run,
    (gives_openArguments hopening).bind_run, hderived]

/-- To let an object of the host go is no matter of the device. -/
theorem letGo_of_host (hhost : source.object.handle? = none) (s : Session) :
    s.letGo [source] = s := by
  rw [Session.letGo, List.filterMap_cons, hhost]
  rfl

/-- What is derived from an object of the host is what the expression denotes. -/
theorem gives_evaluate_derived {word opening first : Token} {more : List Token} {d : Derivation}
    {o : Object} (hneeds : d.needsDriver = true) (hdriver : s.driver?.isSome)
    (hword : word.kind = .word) (hkeyword : Constructor.ofKeyword? word.text = some (.derived d))
    (hfree : s.env.lookup word.text = none) (hopening : opening.kind = .openParen)
    (hsource : Gives (evaluateFrom (first :: more)) ⟨line, first :: more⟩ s source c₁ s₁)
    (hhost : source.object.handle? = none) (hmade : Gives (derive d first source) c₁ s₁ o c₂ s₂) :
    ∃ e s', Gives evaluate ⟨line, word :: opening :: first :: more⟩ s e c₂ s' ∧ e.object = o ∧
      s'.driver? = s₂.driver? := by
  have hheld := hmade.holding source
  rw [letGo_of_host hhost] at hheld
  have hconstruct : Gives (construct (.derived d) word evaluate) ⟨line, opening :: first :: more⟩ s
      o c₂ s₂ := (run_construct_derived word hneeds hdriver hopening hsource).trans hheld
  exact ⟨_, _, gives_evaluate_of_construct hword hfree hkeyword hconstruct, rfl, rfl⟩

/-- What is refused of an object of the host is refused of the expression. -/
theorem refuses_evaluate_derived {word opening first : Token} {more : List Token} {d : Derivation}
    {f : Failure} (hneeds : d.needsDriver = true) (hdriver : s.driver?.isSome)
    (hword : word.kind = .word) (hkeyword : Constructor.ofKeyword? word.text = some (.derived d))
    (hfree : s.env.lookup word.text = none) (hopening : opening.kind = .openParen)
    (hsource : Gives (evaluateFrom (first :: more)) ⟨line, first :: more⟩ s source c₁ s₁)
    (hhost : source.object.handle? = none) (hmade : Refuses (derive d first source) c₁ s₁ f s₂) :
    Refuses evaluate ⟨line, word :: opening :: first :: more⟩ s f s₂ := by
  have hheld := hmade.holding source
  rw [letGo_of_host hhost] at hheld
  obtain ⟨c, hrun⟩ := hheld
  exact ⟨c, run_evaluate_of_error hword hfree hkeyword
    ((run_construct_derived word hneeds hdriver hopening hsource).trans hrun)⟩

end Made

end Reading

namespace Session

open Reading

/-! ## Both ways of saving -/

/-- The tokens up to some rest denote memory of the device, of which something holds in every
session with the driver that made it. -/
def Makes (s : Session) (line : String) (tokens rest : List Token) (P : Session → Memory → Prop) :
    Prop :=
  ∃ e m s', Reading.evaluate.run ⟨line, tokens⟩ s = ((.ok e, ⟨line, rest⟩), s') ∧
    e.object = .memory m ∧ ∀ t : Session, t.driver? = s'.driver? → P t m

theorem Spares.isSome_driver? {s s' : Session} (h : s.Spares s') (hs : s.driver?.isSome) :
    s'.driver?.isSome := by
  obtain ⟨d, hd⟩ := Option.isSome_iff_exists.1 hs
  obtain ⟨n, hn, hget⟩ := exists_of_driver? hd
  obtain ⟨d', hget', -⟩ := h.fleet.exists_of_left hget
  rw [driver?, h.active, hn, Option.bind_some, hget']
  rfl

section Made

variable {s s₁ : Session} {line : String} {word opening : Token}
  {arguments ahead rest : List Token} {source : Entity}

/-- What was stored for a derivation that goes through is there for whoever saves it. -/
theorem makes_of_gives {d : Derivation} {form : Option (ImageFormat × ImageDesc)}
    {bytes : List UInt8} {P : Session → Memory → Prop} (hneeds : d.needsDriver = true)
    (hdriver : s.driver?.isSome) (hword : word.kind = .word)
    (hkeyword : Constructor.ofKeyword? word.text = some (.derived d))
    (hfree : s.env.lookup word.text = none) (hopening : opening.kind = .openParen)
    (hsource : Gives (evaluateFrom arguments) ⟨line, arguments⟩ s source ⟨line, ahead⟩ s₁)
    (hhost : source.object.handle? = none)
    (hmade : ∀ operand, ∃ m s₂, Gives (derive d operand source) ⟨line, ahead⟩ s₁ (.memory m)
      ⟨line, rest⟩ s₂ ∧ s₂.Stores m form bytes)
    (hP : ∀ t m, t.Stores m form bytes → P t m) :
    s.Makes line (word :: opening :: arguments) rest P := by
  obtain ⟨first, more, rfl⟩ : ∃ first more, arguments = first :: more := by
    cases arguments with
    | nil => cases hsource
    | cons first more => exact ⟨first, more, rfl⟩
  obtain ⟨m, s₂, hmade, hstores⟩ := hmade first
  obtain ⟨e, s', hrun, he, hsame⟩ := gives_evaluate_derived hneeds hdriver hword hkeyword hfree
    hopening hsource hhost hmade
  exact ⟨e, m, s', hrun, he, fun t ht => hP t m (hstores.of_driver? (ht.trans hsame))⟩

end Made

/-- **Saving by way of the device** gives what saving from the host gives. Where an expression
denotes an object of the host and a driver is in use: a buffer of all its data is saved as the data
is, and a buffer of a part as that part; an image of the device made of an image of the host is
saved as that image is, as the same bytes or with the same failure of the codec; and an image made
of data, where the codec knows no picture file for it, is saved as the front of the data. What the
codec does is up to the codec. The data has to fit into the memory of the host, and where a part is
asked for that goes beyond the end of the data, the note on it has to go through if notes are
wanted. -/
theorem saved_of_device {s s₁ : Session} {line : String} {word opening : Token}
    {arguments ahead rest : List Token} {source : Entity} (hdriver : s.driver?.isSome)
    (hword : word.kind = .word) (hfree : s.env.lookup word.text = none)
    (hopening : opening.kind = .openParen)
    (hsource : (evaluateFrom arguments).run ⟨line, arguments⟩ s =
      ((.ok source, ⟨line, ahead⟩), s₁)) :
    (∀ d close, word.text = "buffer" → source.object.data? = some d → d.bytes ≠ [] →
      d.bytes.length < allocationLimit → ahead = close :: rest → close.kind = .closeParen →
      s.Makes line (word :: opening :: arguments) rest fun t m => ∀ path label,
        t.saved path (.memory m) = t.saved path (.data ⟨d.bytes, label⟩)) ∧
    (∀ d start length cut, word.text = "buffer" → source.object.data? = some d → d.bytes ≠ [] →
      d.bytes.length < allocationLimit → AsksFor d.bytes.length ahead start length cut rest →
      (cut → s.options.verbose = true → s.out.broken = none) →
      s.Makes line (word :: opening :: arguments) rest fun t m => ∀ path,
        t.saved path (.memory m) = .ok (slice d.bytes start length)) ∧
    (∀ i close, word.text = "image" → source.object = .image i → i.desc.width ≠ 0 →
      i.data.bytes.length = i.desc.byteSize i.format → i.data.bytes.length < allocationLimit →
      ahead = close :: rest → close.kind = .closeParen →
      s.Makes line (word :: opening :: arguments) rest fun t m => ∀ path,
        t.saved path (.memory m) = t.saved path (.image i)) ∧
    (∀ d format desc, word.text = "image" → source.object.data? = some d →
      NamesForm ahead format desc rest → desc.byteSize format ≤ d.bytes.length →
      desc.byteSize format < allocationLimit →
      s.Makes line (word :: opening :: arguments) rest fun t m => ∀ path,
        t.codec.encode path format desc (d.bytes.take (desc.byteSize format)) = .ok none →
          t.saved path (.memory m) = .ok (d.bytes.take (desc.byteSize format))) := by
  have hbuffer : Constructor.ofKeyword? "buffer" = some (.derived .buffer) := by decide
  have himage : Constructor.ofKeyword? "image" = some (.derived .image) := by decide
  have hbuilds : s.Builds _ := within_evaluateFrom arguments ⟨line, arguments⟩ s
  rw [hsource] at hbuilds
  have hdriver₁ : s₁.driver?.isSome := hbuilds.isSome_driver? hdriver
  -- All of the data is a part of it too, so the first case is one of the second.
  have hpart : ∀ d start length cut, word.text = "buffer" → source.object.data? = some d →
      d.bytes ≠ [] → d.bytes.length < allocationLimit →
      AsksFor d.bytes.length ahead start length cut rest →
      (cut → s.options.verbose = true → s.out.broken = none) →
      s.Makes line (word :: opening :: arguments) rest fun t m => ∀ path,
        t.saved path (.memory m) = .ok (slice d.bytes start length) := by
    intro d start length cut hkeyword hdata hne hlt hasks hnote
    have hnote₁ : cut → s₁.options.verbose = true → s₁.out.broken = none := fun hc hv =>
      hbuilds.out.trans (hnote hc (hbuilds.options ▸ hv))
    have hshort : (slice d.bytes start length).length < allocationLimit := by
      rw [slice, List.length_take, List.length_drop]
      omega
    exact makes_of_gives (d := .buffer) rfl hdriver hword (hkeyword ▸ hbuffer) hfree hopening
      hsource (handle?_of_data? hdata)
      (fun operand => gives_filledBuffer hdata hdriver₁ hne hlt hasks hnote₁)
      fun t m h => h.saved_buffer hshort
  refine ⟨?_, hpart, ?_, ?_⟩
  · intro d close hkeyword hdata hne hlt hahead hclose
    obtain ⟨e, m, s', hrun, he, hsaved⟩ := hpart d 0 d.bytes.length False hkeyword hdata hne hlt
      (hahead ▸ .whole hclose) False.elim
    refine ⟨e, m, s', hrun, he, fun t ht path label => (hsaved t ht path).trans ?_⟩
    rw [slice, List.drop_zero, List.take_length]
    rfl
  · intro i close hkeyword hobject hwidth hbytes hlt hahead hclose
    have hexact : i.data.bytes.length = i.desc.exactSize i.format :=
      hbytes.trans (byteSize_eq_exactSize (hbytes ▸ hlt))
    subst hahead
    exact makes_of_gives (d := .image) rfl hdriver hword (hkeyword ▸ himage) hfree hopening hsource
      (by rw [hobject]; rfl)
      (fun operand => gives_filledImage_of_image hobject hdriver₁ hwidth hbytes hlt hclose)
      fun t m h path => h.saved_image hwidth hexact hlt path i.data.label
  · intro d format desc hkeyword hdata hform hbytes hlt
    have hlength : (d.bytes.take (desc.byteSize format)).length = desc.byteSize format :=
      List.length_take_of_le hbytes
    exact makes_of_gives (d := .image) rfl hdriver hword (hkeyword ▸ himage) hfree hopening hsource
      (handle?_of_data? hdata)
      (fun operand => gives_filledImage_of_data hdata hdriver₁ hform hbytes hlt)
      fun t m h path hnone => (h.saved_image hform.width_ne_zero
        (hlength.trans (byteSize_eq_exactSize hlt)) (hlength.trans_lt hlt) path d.label).trans
          (saved_image_of_none hnone)

/-- A session with a driver, in which three bytes and a picture of four pixels are bound. -/
def withHost : Session :=
  { after [] with
    env := ⟨[("d", ⟨0, .data ⟨[1, 2, 3], "uchar"⟩⟩),
      ("i", ⟨1, .image ⟨⟨[1, 2, 3, 4], "uchar"⟩, ⟨.r, .uchar⟩, .ofSize 2 2⟩⟩)]⟩ }

/-- A part of the bytes that goes beyond their end is cut, and the picture is saved as it is. -/
theorem saved_of_device_of_cut :
    (withHost.Makes "buffer(d, 1, 9)" (Cursor.ofLine "buffer(d, 1, 9)").pending [] fun t m =>
      ∀ path, t.saved path (.memory m) = .ok [2, 3]) ∧
    withHost.Makes "image(i)" (Cursor.ofLine "image(i)").pending [] fun t m =>
      ∀ path, t.saved path (.memory m) =
        t.saved path (.image ⟨⟨[1, 2, 3, 4], "uchar"⟩, ⟨.r, .uchar⟩, .ofSize 2 2⟩) := by
  have hbuffer : (Cursor.ofLine "buffer(d, 1, 9)").pending =
      [⟨.word, 0, "buffer"⟩, ⟨.openParen, 6, "("⟩, ⟨.word, 7, "d"⟩, ⟨.comma, 8, ","⟩,
        ⟨.constant, 10, "1"⟩, ⟨.comma, 11, ","⟩, ⟨.constant, 13, "9"⟩, ⟨.closeParen, 14, ")"⟩] := by
    decide +kernel
  have himage : (Cursor.ofLine "image(i)").pending =
      [⟨.word, 0, "image"⟩, ⟨.openParen, 5, "("⟩, ⟨.word, 6, "i"⟩, ⟨.closeParen, 7, ")"⟩] := by
    decide +kernel
  rw [hbuffer, himage]
  constructor
  · have hone : IsSize ⟨.constant, 10, "1"⟩ 1 := ⟨rfl, by decide +kernel⟩
    have hnine : IsSize ⟨.constant, 13, "9"⟩ 9 := ⟨rfl, by decide +kernel⟩
    have hasks : AsksFor 3 [⟨.comma, 8, ","⟩, ⟨.constant, 10, "1"⟩, ⟨.comma, 11, ","⟩,
        ⟨.constant, 13, "9"⟩, ⟨.closeParen, 14, ")"⟩] 1 2 (2 < 9) [] :=
      .part rfl hone (by omega) rfl hnine (by omega) rfl
    exact (saved_of_device rfl rfl rfl rfl (gives_evaluateFrom_name rfl rfl)).2.1
      ⟨[1, 2, 3], "uchar"⟩ 1 2 _ rfl rfl (by decide) (by decide) hasks fun _ _ => rfl
  · exact (saved_of_device rfl rfl rfl rfl (gives_evaluateFrom_name rfl rfl)).2.2.1 _ _ rfl rfl
      (by decide) (by decide) (by decide) rfl rfl

end Session

end DriverBench
