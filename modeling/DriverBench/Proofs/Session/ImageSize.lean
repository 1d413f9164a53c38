import Mathlib.Algebra.Group.Nat.Defs
import DriverBench.Proofs.Session.Saving
/-!
# The size of an image

The bytes of an image are counted with a cap after each product, and what is capped is no size that
data can have. So the data that is to fill an image is compared with the size as it is without a
bound, however large the image: it is refused exactly if it does not suffice, before anything is
asked of the driver, and else what is taken of it, the size that the session keeps and the bytes
that the driver keeps are of that size (`image_sizes_decide`).
-/

namespace DriverBench

open Device Number Simulator

/-- An image that is too large to be held is refused, and the driver stays as it is. -/
theorem Simulator.run_createImage_of_limit {d : State} {format : ImageFormat} {desc : ImageDesc}
    {data : List UInt8} (hwidth : desc.width ≠ 0) (hdata : desc.byteSize format ≤ data.length)
    (hlimit : allocationLimit ≤ desc.byteSize format) :
    (createImage format desc (some data)).run.run d =
      (.error (.returned "clCreateImage" .outOfHostMemory), d) := by
  have hsize : desc.byteSize format ≠ 0 := by
    have hpos : 0 < allocationLimit := by decide
    omega
  unfold createImage zeroed
  rw [if_neg (by simp [hwidth, hsize]), if_neg (by simpa using hdata), if_pos hlimit]
  rfl

namespace Reading

/-! ## Images of data -/

/-- The tokens behind data that say the form of an image: a width, which may be zero, a height, an
order and a type, each behind a comma. -/
inductive FormOf : List Token → Nat → Nat → ImageFormat → Prop
  | mk {comma₁ first comma₂ second comma₃ third comma₄ fourth : Token} {width height : Nat}
      {order : ChannelOrder} {type : ChannelType} :
      comma₁.kind = .comma → IsSize first width → comma₂.kind = .comma → IsSize second height →
      comma₃.kind = .comma → ChannelOrder.ofName? third.text = some order →
      comma₄.kind = .comma → Text.choose fourth.text ChannelType.name ChannelType.all = .one type →
      FormOf [comma₁, first, comma₂, second, comma₃, third, comma₄, fourth] width height
        ⟨order, type⟩

/-- The tokens `image(DATA, width, height, ORDER, TYPE)` in front of a rest, where the expression
for the data goes through and leads to a second session. -/
inductive AsksImage (s : Session) (line : String) : List Token → Data → Nat → Nat → ImageFormat →
    List Token → Session → Prop
  | mk {word opening closing : Token} {arguments form rest : List Token} {source : Entity}
      {data : Data} {width height : Nat} {format : ImageFormat} {s₁ : Session} :
      word.kind = .word → word.text = "image" → opening.kind = .openParen →
      Gives evaluate ⟨line, arguments⟩ s source ⟨line, form ++ closing :: rest⟩ s₁ →
      source.object.data? = some data → FormOf form width height format →
      closing.kind = .closeParen →
      AsksImage s line (word :: opening :: arguments) data width height format rest s₁

section Image

variable {line : String} {s s' : Session} {tokens form rest : List Token} {source : Entity}
  {operand closing : Token} {data : Data} {width height : Nat} {format : ImageFormat}
  {desc : ImageDesc}

theorem FormOf.namesForm (h : FormOf form width height format) (hwidth : width ≠ 0)
    (hclosing : closing.kind = .closeParen) (rest : List Token) :
    NamesForm (form ++ closing :: rest) format (.ofSize width height) rest := by
  cases h with
  | mk hcomma₁ hfirst hcomma₂ hsecond hcomma₃ horder hcomma₄ htype =>
    exact .mk hcomma₁ hfirst hwidth hcomma₂ hsecond hcomma₃ horder hcomma₄ htype hclosing

/-- A width of zero is refused before anything else of the form is read. -/
theorem refuses_filledImage_of_zero (hdata : source.object.data? = some data)
    (h : FormOf form 0 height format) (rest : List Token) :
    ∃ span, Refuses (filledImage operand source) ⟨line, form ++ rest⟩ s
      (Fault.widthZero.atSpan span) s := by
  cases h with
  | @mk _ first _ _ _ _ _ _ _ _ _ _ hcomma hfirst =>
    refine ⟨first.span, (gives_skip hcomma).bind_refuses (Refuses.bind ?_)⟩
    have hzero : ∀ more, Refuses widthArgument ⟨line, first :: more⟩ s
        (Fault.widthZero.atSpan first.span) s :=
      fun more => (gives_sizeArgument hfirst).bind_refuses (refuses_raise _ _).bind
    unfold imageFromData
    rw [hdata]
    exact (hzero _).bind.bind

/-- **Data that does not suffice** is refused, and nothing is asked of the driver. -/
theorem refuses_filledImage_of_lt (hdata : source.object.data? = some data)
    (h : NamesForm tokens format desc rest) (hlt : data.bytes.length < desc.byteSize format) :
    Refuses (filledImage operand source) ⟨line, tokens⟩ s
      ((Fault.imageTooLarge (desc.byteSize format) data.bytes.length).atSpan operand.span) s := by
  obtain ⟨comma, more, close, rfl, hcomma, -, hform⟩ := @gives_imageForm line s _ _ _ _ h
  refine (gives_skip hcomma).bind_refuses (Refuses.bind ?_)
  unfold imageFromData
  rw [hdata]
  refine hform.bind_refuses ?_
  dsimp only
  rw [if_pos hlt]
  exact (refuses_raise _ _).bind

/-- An image that is too large to be held is refused by the driver. -/
theorem refuses_filledImage_of_limit (hdata : source.object.data? = some data)
    (hdriver : s.driver?.isSome) (h : NamesForm tokens format desc rest)
    (hle : desc.byteSize format ≤ data.bytes.length)
    (hlimit : allocationLimit ≤ desc.byteSize format) :
    Refuses (filledImage operand source) ⟨line, tokens⟩ s
      ⟨.driver (.returned "clCreateImage" .outOfHostMemory), none⟩ s := by
  obtain ⟨d, hd⟩ := Option.isSome_iff_exists.1 hdriver
  obtain ⟨n, hn, hget⟩ := Session.exists_of_driver? hd
  obtain ⟨comma, more, close, rfl, hcomma, hclose, hform⟩ := @gives_imageForm line s _ _ _ _ h
  have htake : desc.byteSize format ≤ (data.bytes.take (desc.byteSize format)).length :=
    Nat.le_of_eq (List.length_take_of_le hle).symm
  refine (gives_skip hcomma).bind_refuses ((gives_imageFromData hdata hform hle).bind_refuses ?_)
  exact (gives_closeArguments hclose).bind_refuses
    (refuses_drive hn hget (run_createImage_of_limit h.width_ne_zero htake hlimit)).bind

/-- The size of an image that data suffices for is not capped. -/
theorem byteSize_eq_of_exactSize_le (hle : desc.exactSize format ≤ data.bytes.length)
    (hlt : data.bytes.length < sizeBound - 1) :
    desc.byteSize format = desc.exactSize format := by
  rw [ImageDesc.byteSize_eq_cap]
  refine cap_eq_self ?_
  calc cap (desc.exactSize format) ≤ desc.exactSize format := Nat.min_le_left _ _
    _ ≤ data.bytes.length := hle
    _ < sizeBound - 1 := hlt

/-- What is taken of data for an image is as long as the image is large. -/
theorem length_of_imageFromData {c c' : Cursor} {bytes : List UInt8}
    (hdata : source.object.data? = some data) (hlt : data.bytes.length < sizeBound - 1)
    (h : Gives (imageFromData operand source) c s (format, desc, bytes) c' s') :
    bytes = data.bytes.take (desc.exactSize format) ∧ bytes.length = desc.exactSize format := by
  unfold imageFromData at h
  rw [hdata] at h
  obtain ⟨⟨format', desc'⟩, c₁, s₁, -, htaken⟩ := h.exists_of_bind
  obtain ⟨hle, hgiven⟩ := htaken.of_guard
  cases hgiven
  rw [ImageDesc.byteSize_eq_cap, lt_cap_iff hlt, Nat.not_lt] at hle
  rw [byteSize_eq_of_exactSize_le hle hlt]
  exact ⟨rfl, List.length_take_of_le hle⟩

/-- The ends that an image of data can come to, each with what decides it: the size without a bound,
compared with the length of the data and with what the driver can hold. -/
inductive ImageEnds (s : Session) (line : String) (tokens rest : List Token) (data : Data)
    (format : ImageFormat) (desc : ImageDesc) (s₁ : Session) : Prop
  | widthless {span : Span} : desc.width = 0 →
      Refuses evaluate ⟨line, tokens⟩ s (Fault.widthZero.atSpan span) s₁ →
      ImageEnds s line tokens rest data format desc s₁
  | short {span : Span} : desc.width ≠ 0 → data.bytes.length < desc.exactSize format →
      Refuses evaluate ⟨line, tokens⟩ s
        ((Fault.imageTooLarge (desc.byteSize format) data.bytes.length).atSpan span) s₁ →
      ImageEnds s line tokens rest data format desc s₁
  | unheld : desc.width ≠ 0 → desc.exactSize format ≤ data.bytes.length →
      allocationLimit ≤ desc.exactSize format →
      Refuses evaluate ⟨line, tokens⟩ s
        ⟨.driver (.returned "clCreateImage" .outOfHostMemory), none⟩ s₁ →
      ImageEnds s line tokens rest data format desc s₁
  | made {e : Entity} {m : Memory} {s' : Session} : desc.width ≠ 0 →
      desc.exactSize format ≤ data.bytes.length → desc.exactSize format < allocationLimit →
      Gives evaluate ⟨line, tokens⟩ s e ⟨line, rest⟩ s' → e.object = .memory m →
      s'.Stores m (some (format, desc)) (data.bytes.take (desc.exactSize format)) →
      ImageEnds s line tokens rest data format desc s₁

/-- **Whatever is asked for**, an image of data comes to one of these ends. -/
theorem AsksImage.ends {s₁ : Session}
    (h : AsksImage s line tokens data width height format rest s₁) (hdriver : s.driver?.isSome)
    (hfree : s.env.lookup "image" = none) (hlt : data.bytes.length < sizeBound - 1) :
    ImageEnds s line tokens rest data format (.ofSize width height) s₁ := by
  cases h with
  | @mk word opening closing arguments form _ source _ _ _ _ _ hword htext hopening hsource hdata
      hform hclosing =>
    have hkeyword : Constructor.ofKeyword? word.text = some (.derived .image) := by
      rw [htext]
      decide
    have hbuilds : s.Builds s₁ := hsource.within within_builds_evaluate
    have hdriver₁ : s₁.driver?.isSome := hbuilds.isSome_driver? hdriver
    obtain ⟨first, more, rfl⟩ : ∃ first more, arguments = first :: more := by
      cases arguments with
      | nil => cases hsource
      | cons first more => exact ⟨first, more, rfl⟩
    have hrefused : ∀ {f}, Refuses (filledImage first source) ⟨line, form ++ closing :: rest⟩ s₁ f
        s₁ → Refuses evaluate ⟨line, word :: opening :: first :: more⟩ s f s₁ :=
      refuses_evaluate_derived (d := .image) rfl hdriver hword hkeyword (htext ▸ hfree) hopening
        hsource (handle?_of_data? hdata)
    -- In the order of the checks: the width as the form is read, then the data, then the driver.
    by_cases hwidth : width = 0
    · subst hwidth
      obtain ⟨span, hzero⟩ := refuses_filledImage_of_zero hdata hform (closing :: rest)
      exact .widthless (ImageDesc.width_ofSize _ _) (hrefused hzero)
    have hwide : (ImageDesc.ofSize width height).width ≠ 0 := by rwa [ImageDesc.width_ofSize]
    have hnames := hform.namesForm hwidth hclosing rest
    rcases Nat.lt_or_ge data.bytes.length ((ImageDesc.ofSize width height).exactSize format) with
      hshort | hle
    · -- Data that is too short for the size is too short for the capped one too.
      have hless := hshort
      rw [← lt_cap_iff hlt, ← ImageDesc.byteSize_eq_cap] at hless
      exact .short hwide hshort (hrefused (refuses_filledImage_of_lt hdata hnames hless))
    have hsize : (ImageDesc.ofSize width height).byteSize format = _ :=
      byteSize_eq_of_exactSize_le hle hlt
    rcases Nat.lt_or_ge ((ImageDesc.ofSize width height).exactSize format) allocationLimit with
      hheld | hlimit
    · obtain ⟨m, s₂, hmade, hstores⟩ := @gives_filledImage_of_data line s₁ _ _ source first _ hdata
        hdriver₁ _ _ hnames (hsize ▸ hle) (hsize ▸ hheld)
      obtain ⟨e, s', hgives, he, hsame⟩ := gives_evaluate_derived (d := .image) rfl hdriver hword
        hkeyword (htext ▸ hfree) hopening hsource (handle?_of_data? hdata) hmade
      exact .made hwide hle hheld hgives he (hsize ▸ hstores.of_driver? hsame)
    · exact .unheld hwide hle hlimit (hrefused
        (refuses_filledImage_of_limit hdata hdriver₁ hnames (hsize ▸ hle) (hsize ▸ hlimit)))

namespace ImageEnds

variable {s₁ : Session}

/-- Data is refused as too short exactly if it does not suffice. -/
theorem tooLarge_iff (h : ImageEnds s line tokens rest data format desc s₁) :
    (∃ f c' s', evaluate.run ⟨line, tokens⟩ s = ((.error f, c'), s') ∧ f.fault.code = "SEM038") ↔
      data.bytes.length < desc.exactSize format := by
  cases h with
  | widthless hwidth hrefused =>
    rw [hrefused.exists_code_iff, ImageDesc.exactSize_eq_zero hwidth]
    exact iff_of_false (by decide : "SEM037" ≠ "SEM038") (Nat.not_lt_zero _)
  | short _ hshort hrefused =>
    rw [hrefused.exists_code_iff]
    exact iff_of_true rfl hshort
  | unheld _ hle _ hrefused =>
    rw [hrefused.exists_code_iff]
    exact iff_of_false (by decide) (Nat.not_lt.2 hle)
  | made _ hle _ hgives =>
    rw [hgives]
    exact iff_of_false (fun ⟨_, _, _, h, _⟩ => nomatch h) (Nat.not_lt.2 hle)

/-- Data that does not suffice is refused behind the expression for it. -/
theorem refuses_of_lt (h : ImageEnds s line tokens rest data format desc s₁)
    (hlt : data.bytes.length < desc.exactSize format) :
    ∃ span, Refuses evaluate ⟨line, tokens⟩ s
      ((Fault.imageTooLarge (desc.byteSize format) data.bytes.length).atSpan span) s₁ := by
  cases h with
  | widthless hwidth =>
    rw [ImageDesc.exactSize_eq_zero hwidth] at hlt
    exact absurd hlt (Nat.not_lt_zero _)
  | short _ _ hrefused => exact ⟨_, hrefused⟩
  | unheld _ hle => exact absurd hlt (Nat.not_lt.2 hle)
  | made _ hle => exact absurd hlt (Nat.not_lt.2 hle)

/-- An image is made exactly if it has a width, the data suffices and the driver can hold it. -/
theorem goes_through_iff (h : ImageEnds s line tokens rest data format desc s₁) :
    (∃ e c' s', evaluate.run ⟨line, tokens⟩ s = ((.ok e, c'), s')) ↔
      desc.width ≠ 0 ∧ desc.exactSize format ≤ data.bytes.length ∧
        desc.exactSize format < allocationLimit := by
  cases h with
  | widthless hwidth hrefused =>
    exact iff_of_false hrefused.not_goes_through fun h => h.1 hwidth
  | short _ hshort hrefused =>
    exact iff_of_false hrefused.not_goes_through fun h => absurd hshort (Nat.not_lt.2 h.2.1)
  | unheld _ _ hlimit hrefused =>
    exact iff_of_false hrefused.not_goes_through fun h => absurd h.2.2 (Nat.not_lt.2 hlimit)
  | made hwide hle hheld hgives => exact iff_of_true ⟨_, _, _, hgives⟩ ⟨hwide, hle, hheld⟩

/-- What is made of the data is memory that keeps its front. -/
theorem stores {e : Entity} {c' : Cursor} (h : ImageEnds s line tokens rest data format desc s₁)
    (hgives : Gives evaluate ⟨line, tokens⟩ s e c' s') :
    desc.exactSize format ≤ data.bytes.length ∧ ∃ m, e.object = .memory m ∧
      s'.Stores m (some (format, desc)) (data.bytes.take (desc.exactSize format)) := by
  cases h with
  | widthless _ hrefused => exact absurd ⟨_, _, _, hgives⟩ hrefused.not_goes_through
  | short _ _ hrefused => exact absurd ⟨_, _, _, hgives⟩ hrefused.not_goes_through
  | unheld _ _ _ hrefused => exact absurd ⟨_, _, _, hgives⟩ hrefused.not_goes_through
  | made _ hle _ hmade he hstores =>
    cases hgives.symm.trans hmade
    exact ⟨hle, _, he, hstores⟩

end ImageEnds

end Image

end Reading

namespace Session

open Reading

/-- **Image sizes decide.** The bytes of an image of any extent and format are counted as the
product without a bound, or as the greatest number of 64 bits if that is less; so they are compared
with the length of any data that is less than that number as the product is. What is taken of such
data for an image is as long as the product says. Where a driver is in use and the word is free,
`image(DATA, width, height, ORDER, TYPE)` is refused as too large, for data of such a length,
exactly if the product is greater than that length, and then nothing has been done behind the
expression for the data; it goes through exactly if the width is not zero, the data suffices and the
driver can hold as much; and what it then makes is memory of that size, for which the driver keeps
that many bytes: the front of the data. -/
theorem image_sizes_decide :
    (∀ (desc : ImageDesc) (format : ImageFormat), desc.byteSize format =
      min (desc.width * max desc.height 1 * format.pixelSize) (2 ^ 64 - 1)) ∧
    (∀ (width height : Nat) (format : ImageFormat),
      (ImageDesc.ofSize width height).byteSize format =
        min (width * max height 1 * format.pixelSize) (2 ^ 64 - 1) ∧
      ∀ length < 2 ^ 64 - 1, length < (ImageDesc.ofSize width height).byteSize format ↔
        length < width * max height 1 * format.pixelSize) ∧
    (∀ (operand : Token) (source : Entity) (data : Data) (c c' : Cursor) (s s' : Session)
      (format : ImageFormat) (desc : ImageDesc) (bytes : List UInt8),
      source.object.data? = some data → data.bytes.length < 2 ^ 64 - 1 →
      Gives (imageFromData operand source) c s (format, desc, bytes) c' s' →
      bytes = data.bytes.take (desc.width * max desc.height 1 * format.pixelSize) ∧
        bytes.length = desc.width * max desc.height 1 * format.pixelSize) ∧
    ∀ (s s₁ : Session) (line : String) (tokens rest : List Token) (data : Data)
      (width height : Nat) (format : ImageFormat),
      AsksImage s line tokens data width height format rest s₁ → s.driver?.isSome →
      s.env.lookup "image" = none → data.bytes.length < 2 ^ 64 - 1 →
      ((∃ f c' s', Reading.evaluate.run ⟨line, tokens⟩ s = ((.error f, c'), s') ∧
          f.fault.code = "SEM038") ↔
        data.bytes.length < width * max height 1 * format.pixelSize) ∧
      (data.bytes.length < width * max height 1 * format.pixelSize →
        ∃ span, Refuses Reading.evaluate ⟨line, tokens⟩ s
          ((Fault.imageTooLarge (min (width * max height 1 * format.pixelSize) (2 ^ 64 - 1))
            data.bytes.length).atSpan span) s₁) ∧
      ((∃ e c' s', Reading.evaluate.run ⟨line, tokens⟩ s = ((.ok e, c'), s')) ↔
        width ≠ 0 ∧ width * max height 1 * format.pixelSize ≤ data.bytes.length ∧
          width * max height 1 * format.pixelSize < allocationLimit) ∧
      ∀ e c' s', Reading.evaluate.run ⟨line, tokens⟩ s = ((.ok e, c'), s') →
        ∃ m d bytes, e.object = .memory m ∧ s'.driver? = some d ∧
          d.memories.get? m.handle.id = some ⟨bytes, some (format, .ofSize width height)⟩ ∧
          bytes = data.bytes.take (width * max height 1 * format.pixelSize) ∧
          bytes.length = width * max height 1 * format.pixelSize ∧
          m.size = width * max height 1 * format.pixelSize := by
  refine ⟨fun desc format => desc.byteSize_eq_cap format, fun width height format => ⟨?_, ?_⟩,
    fun operand source data c c' s s' format desc bytes hdata hlt h =>
      length_of_imageFromData hdata hlt h, ?_⟩
  · rw [ImageDesc.byteSize_eq_cap, ImageDesc.exactSize_ofSize]
    rfl
  · intro length hlength
    rw [ImageDesc.byteSize_eq_cap, ImageDesc.exactSize_ofSize]
    exact lt_cap_iff hlength
  intro s s₁ line tokens rest data width height format h hdriver hfree hlt
  have hends := h.ends hdriver hfree hlt
  have hexact := ImageDesc.exactSize_ofSize width height format
  have hsize : (ImageDesc.ofSize width height).byteSize format =
      min (width * max height 1 * format.pixelSize) (2 ^ 64 - 1) := by
    rw [ImageDesc.byteSize_eq_cap, hexact]
    rfl
  rw [← hsize, ← hexact]
  refine ⟨hends.tooLarge_iff, hends.refuses_of_lt, ?_, fun e c' s' hrun => ?_⟩
  · simpa only [ImageDesc.width_ofSize] using hends.goes_through_iff
  · obtain ⟨hle, m, he, hstores⟩ := hends.stores hrun
    obtain ⟨d, hd, hkept⟩ := hstores.kept
    have htaken := List.length_take_of_le hle
    exact ⟨m, d, _, he, hd, hkept, rfl, htaken, hstores.size.trans htaken⟩

/-- Two rows of `2 ^ 63 + 1` bytes each are refused for data of three bytes, though the product
would wrap around to two; one row of three bytes takes all of the data. -/
theorem image_sizes_decide_of_wrapping :
    (3 < 2 ^ 64 - 1 ∧ (3 < (ImageDesc.ofSize 9223372036854775809 2).byteSize ⟨.r, .uchar⟩ ↔
      3 < 9223372036854775809 * max 2 1 * ImageFormat.pixelSize ⟨.r, .uchar⟩)) ∧
    (withHost.driver?.isSome ∧ withHost.env.lookup "image" = none ∧
      ([1, 2, 3] : List UInt8).length < 2 ^ 64 - 1) ∧
    (AsksImage withHost "image(d, 9223372036854775809, 2, cl_r, uchar)"
        (Cursor.ofLine "image(d, 9223372036854775809, 2, cl_r, uchar)").pending
        ⟨[1, 2, 3], "uchar"⟩ 9223372036854775809 2 ⟨.r, .uchar⟩ [] withHost ∧
      ∃ f c' s', withHost.evaluate "image(d, 9223372036854775809, 2, cl_r, uchar)" =
        ((.error f, c'), s') ∧ f.fault.code = "SEM038") ∧
    (AsksImage withHost "image(d, 3, 0, CL_R, uch)"
        (Cursor.ofLine "image(d, 3, 0, CL_R, uch)").pending
        ⟨[1, 2, 3], "uchar"⟩ 3 0 ⟨.r, .uchar⟩ [] withHost ∧
      ∃ e c' s' m d, withHost.evaluate "image(d, 3, 0, CL_R, uch)" = ((.ok e, c'), s') ∧
        e.object = .memory m ∧ m.size = 3 ∧ s'.driver? = some d ∧
        d.memories.get? m.handle.id = some ⟨[1, 2, 3], some (⟨.r, .uchar⟩, .ofSize 3 0)⟩) ∧
    ∃ c', Gives (imageFromData ⟨.word, 6, "d"⟩ ⟨0, .data ⟨[1, 2, 3], "uchar"⟩⟩)
        ⟨"image(d, 3, 0, CL_R, uch)",
          (Cursor.ofLine "image(d, 3, 0, CL_R, uch)").pending.drop 4⟩ withHost
        (⟨.r, .uchar⟩, .ofSize 3 0, [1, 2, 3]) c' withHost ∧
      [1, 2, 3] = ([1, 2, 3] : List UInt8).take ((ImageDesc.ofSize 3 0).width *
        max (ImageDesc.ofSize 3 0).height 1 * ImageFormat.pixelSize ⟨.r, .uchar⟩) := by
  have hlt : ([1, 2, 3] : List UInt8).length < 2 ^ 64 - 1 := by decide
  have hwide : AsksImage withHost "image(d, 9223372036854775809, 2, cl_r, uchar)"
      (Cursor.ofLine "image(d, 9223372036854775809, 2, cl_r, uchar)").pending
      ⟨[1, 2, 3], "uchar"⟩ 9223372036854775809 2 ⟨.r, .uchar⟩ [] withHost := by
    have htokens : (Cursor.ofLine "image(d, 9223372036854775809, 2, cl_r, uchar)").pending =
        ⟨.word, 0, "image"⟩ :: ⟨.openParen, 5, "("⟩ :: ⟨.word, 6, "d"⟩ ::
          ([⟨.comma, 7, ","⟩, ⟨.constant, 9, "9223372036854775809"⟩, ⟨.comma, 28, ","⟩,
            ⟨.constant, 30, "2"⟩, ⟨.comma, 31, ","⟩, ⟨.word, 33, "cl_r"⟩, ⟨.comma, 37, ","⟩,
            ⟨.word, 39, "uchar"⟩] ++ ⟨.closeParen, 44, ")"⟩ :: []) := by decide +kernel
    have hwidth : IsSize ⟨.constant, 9, "9223372036854775809"⟩ 9223372036854775809 :=
      ⟨rfl, by decide +kernel⟩
    have hheight : IsSize ⟨.constant, 30, "2"⟩ 2 := ⟨rfl, by decide +kernel⟩
    rw [htokens]
    exact .mk rfl rfl rfl (gives_evaluateFrom_name rfl rfl) rfl
      (.mk rfl hwidth rfl hheight rfl (by decide +kernel) rfl (by decide +kernel)) rfl
  let form : List Token := [⟨.comma, 7, ","⟩, ⟨.constant, 9, "3"⟩, ⟨.comma, 10, ","⟩,
    ⟨.constant, 12, "0"⟩, ⟨.comma, 13, ","⟩, ⟨.word, 15, "CL_R"⟩, ⟨.comma, 19, ","⟩,
    ⟨.word, 21, "uch"⟩]
  have htokens : (Cursor.ofLine "image(d, 3, 0, CL_R, uch)").pending =
      ⟨.word, 0, "image"⟩ :: ⟨.openParen, 5, "("⟩ :: ⟨.word, 6, "d"⟩ ::
        (form ++ ⟨.closeParen, 24, ")"⟩ :: []) := by decide +kernel
  have hform : FormOf form 3 0 ⟨.r, .uchar⟩ := by
    have hwidth : IsSize ⟨.constant, 9, "3"⟩ 3 := ⟨rfl, by decide +kernel⟩
    have hheight : IsSize ⟨.constant, 12, "0"⟩ 0 := ⟨rfl, by decide +kernel⟩
    exact .mk rfl hwidth rfl hheight rfl (by decide +kernel) rfl (by decide +kernel)
  have hwhole : AsksImage withHost "image(d, 3, 0, CL_R, uch)"
      (Cursor.ofLine "image(d, 3, 0, CL_R, uch)").pending
      ⟨[1, 2, 3], "uchar"⟩ 3 0 ⟨.r, .uchar⟩ [] withHost := by
    rw [htokens]
    exact .mk rfl rfl rfl (gives_evaluateFrom_name rfl rfl) rfl hform rfl
  obtain ⟨-, hcompare, htaken, hasked⟩ := image_sizes_decide
  obtain ⟨hrefused, -, -, -⟩ := hasked _ _ _ _ _ _ _ _ _ hwide rfl rfl hlt
  obtain ⟨-, -, haccepted, hmade⟩ := hasked _ _ _ _ _ _ _ _ _ hwhole rfl rfl hlt
  obtain ⟨e, c', s', hrun⟩ := haccepted.2 (by decide)
  obtain ⟨m, d, bytes, he, hd, hkept, hbytes, -, hsize⟩ := hmade e c' s' hrun
  obtain rfl : bytes = [1, 2, 3] := hbytes
  -- The form stands behind the first comma, the fourth token of the line.
  have hnames : NamesForm (form ++ ⟨.closeParen, 24, ")"⟩ :: []) ⟨.r, .uchar⟩ (.ofSize 3 0) [] :=
    hform.namesForm (by decide) rfl []
  obtain ⟨comma, more, close, hcomma, -, -, hread⟩ :=
    @gives_imageForm "image(d, 3, 0, CL_R, uch)" withHost _ _ _ _ hnames
  obtain ⟨-, rfl⟩ := List.cons.inj hcomma
  have hfits : (ImageDesc.ofSize 3 0).byteSize ⟨.r, .uchar⟩ ≤ ([1, 2, 3] : List UInt8).length := by
    decide
  have hslice : Gives (imageFromData ⟨.word, 6, "d"⟩ ⟨0, .data ⟨[1, 2, 3], "uchar"⟩⟩)
      ⟨"image(d, 3, 0, CL_R, uch)", form.drop 1 ++ [⟨.closeParen, 24, ")"⟩]⟩ withHost
      (⟨.r, .uchar⟩, .ofSize 3 0, [1, 2, 3]) ⟨"image(d, 3, 0, CL_R, uch)", [close]⟩ withHost :=
    @gives_imageFromData _ _ _ ⟨0, .data ⟨[1, 2, 3], "uchar"⟩⟩ _ ⟨[1, 2, 3], "uchar"⟩ rfl _ _ _
      hread hfits
  have hbehind : (Cursor.ofLine "image(d, 3, 0, CL_R, uch)").pending.drop 4 =
      form.drop 1 ++ [⟨.closeParen, 24, ")"⟩] := by rw [htokens]; rfl
  rw [← hbehind] at hslice
  exact ⟨⟨by decide, (hcompare _ _ _).2 3 (by decide)⟩, ⟨rfl, rfl, hlt⟩,
    ⟨hwide, hrefused.2 (by decide)⟩,
    ⟨hwhole, e, c', s', m, d, hrun, he, hsize, hd, hkept⟩, _, hslice,
    (htaken _ _ ⟨[1, 2, 3], "uchar"⟩ _ _ _ _ _ _ _ rfl hlt hslice).1⟩

end Session

end DriverBench
