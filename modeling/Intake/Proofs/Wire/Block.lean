import Intake.Proofs.Wire.Input
import Intake.Wire.Element

/-!
# Block: whatever a compressor chose is expanded to the content

The same content can be written as many blocks: it may be cut into literals and copies anywhere, a literal may have more length
bytes than it needs, a copy may overlap what it writes. A reader cannot tell how the elements were chosen, so the statement is
about all of them: a block that holds a content is expanded to it (`expand_of_holds`). What one element adds is said by
`element_encode`, for elements of every kind.
-/

namespace Intake

namespace BlockElement

@[simp] theorem length_copied (offset n : Nat) (out : List UInt8) : (copied offset n out).length = out.length + n := by
  induction n generalizing out with
  | zero => rfl
  | succ n ih =>
    rw [copied, ih, List.length_append, List.length_singleton]
    omega

/-- An element only adds to what has been written. -/
theorem length_le_apply (e : BlockElement) (out : List UInt8) : out.length ≤ (e.apply out).length := by
  cases e <;> simp [apply]

end BlockElement

namespace Block

open BlockElement

/-- What is written does not grow beyond the content. -/
theorem length_le_of_expands {out content : List UInt8} {es : List BlockElement} (h : Expands out es content) :
    out.length ≤ content.length := by
  induction h with
  | done content => exact Nat.le_refl _
  | step _ _ ih => exact Nat.le_trans (length_le_apply _ _) ih

theorem repeatBack_toArray (offset n : Nat) (out : List UInt8) :
    repeatBack offset n out.toArray = (copied offset n out).toArray := by
  induction n generalizing out with
  | zero => rfl
  | succ n ih =>
    rw [repeatBack, copied, ← ih]
    simp [Array.getD_eq_getD_getElem?, List.getD_eq_getElem?_getD]

/-! ## One element -/

/-- A literal whose number of bytes stands in the tag. -/
theorem literal_short {announced : Nat} {bs out : List UInt8} (rest : List UInt8) (hlow : 1 ≤ bs.length) (hhigh : bs.length ≤ 60)
    (hroom : (out ++ bs).length ≤ announced) :
    literal announced (bs.length - 1) (Input.ofList (bs ++ rest)) out.toArray = .ok (Input.ofList rest, (out ++ bs).toArray) := by
  rw [List.length_append] at hroom
  have hlength : bs.length - 1 + 1 = bs.length := by omega
  unfold literal
  rw [if_pos (by omega), hlength]
  simp only [Input.take?_append, List.size_toArray]
  rw [if_pos (by omega), List.append_toArray]

/-- A literal whose number of bytes stands behind the tag. -/
theorem literal_long {announced width : Nat} {bs out : List UInt8} (rest : List UInt8) (hwidth : 1 ≤ width) (hlow : 1 ≤ bs.length)
    (hhigh : bs.length ≤ Nat.pow 256 width) (hroom : (out ++ bs).length ≤ announced) :
    literal announced (59 + width) (Input.ofList (Encoding.littleEndian width (bs.length - 1) ++ bs ++ rest)) out.toArray =
      .ok (Input.ofList rest, (out ++ bs).toArray) := by
  rw [List.length_append] at hroom
  have hnumber : (Encoding.littleEndian width (bs.length - 1)).length = 59 + width - 59 := by
    rw [Encoding.length_littleEndian]
    omega
  have hlength : Input.littleEndian (Encoding.littleEndian width (bs.length - 1)) + 1 = bs.length := by
    rw [Input.littleEndian_encoding (by omega)]
    omega
  unfold literal
  rw [if_neg (by omega), ← hnumber, List.append_assoc]
  simp only [Input.take?_append, hlength, List.size_toArray]
  rw [if_pos (by omega), List.append_toArray]

/-- A copy with an offset of which some lower bytes stand behind the tag. -/
theorem copy_encode {announced : Nat} {out : List UInt8} (length high low width : Nat) (rest : List UInt8)
    (hlow : low < Nat.pow 256 width) (hpos : 1 ≤ high * 256 + low) (hback : high * 256 + low ≤ out.length)
    (hroom : (copied (high * 256 + low) length out).length ≤ announced) :
    copy announced length high width (Input.ofList (Encoding.littleEndian width low ++ rest)) out.toArray =
      .ok (Input.ofList rest, (copied (high * 256 + low) length out).toArray) := by
  rw [length_copied] at hroom
  have htake := Input.take?_append (Encoding.littleEndian width low) rest
  rw [Encoding.length_littleEndian] at htake
  unfold copy
  rw [htake]
  simp only [Input.littleEndian_encoding hlow, List.size_toArray]
  rw [if_neg (by omega), if_neg (by omega), repeatBack_toArray]

/-- A copy whose offset stands behind the tag as a whole. -/
theorem copy_far {announced : Nat} {out : List UInt8} (length offset width : Nat) (rest : List UInt8)
    (hfar : offset < Nat.pow 256 width) (hpos : 1 ≤ offset) (hback : offset ≤ out.length)
    (hroom : (copied offset length out).length ≤ announced) :
    copy announced length 0 width (Input.ofList (Encoding.littleEndian width offset ++ rest)) out.toArray =
      .ok (Input.ofList rest, (copied offset length out).toArray) := by
  have hoffset : 0 * 256 + offset = offset := by rw [Nat.zero_mul, Nat.zero_add]
  have hcopy := @copy_encode announced out length 0 offset width rest hfar
  rw [hoffset] at hcopy
  exact hcopy hpos hback hroom

/-- A copy from nearby: the upper part of its offset stands in the tag and the lower part in one byte behind it. -/
theorem copy_near {announced : Nat} {out : List UInt8} (length offset : Nat) (rest : List UInt8) (hpos : 1 ≤ offset)
    (hback : offset ≤ out.length) (hroom : (copied offset length out).length ≤ announced) :
    copy announced length (offset / 256) 1 (Input.ofList ([UInt8.ofNat (offset % 256)] ++ rest)) out.toArray =
      .ok (Input.ofList rest, (copied offset length out).toArray) := by
  have hoffset : offset / 256 * 256 + offset % 256 = offset := by omega
  have hlow : offset % 256 < Nat.pow 256 1 := Nat.mod_lt offset (by decide)
  have hcopy := @copy_encode announced out length (offset / 256) (offset % 256) 1 rest hlow
  rw [hoffset] at hcopy
  simp only [Encoding.littleEndian, Nat.mod_mod] at hcopy
  exact hcopy hpos hback hroom

/-- An element is a tag and what stands behind it, and adds what it stands for, if it fits and there is room. -/
theorem element_encode {e : BlockElement} {announced : Nat} {out : List UInt8} (rest : List UInt8) (hfits : e.Fits out.length)
    (hroom : (e.apply out).length ≤ announced) :
    ∃ (tag : UInt8) (behind : List UInt8), e.encode = tag :: behind ∧
      element announced tag.toNat (Input.ofList (behind ++ rest)) out.toArray = .ok (Input.ofList rest, (e.apply out).toArray) := by
  cases e with
  | shortLiteral bs =>
    obtain ⟨hlow, hhigh⟩ := hfits
    refine ⟨_, _, rfl, ?_⟩
    rw [Encoding.toNat_byte (by omega), element]
    have hkind : 4 * (bs.length - 1) % 4 = 0 := by omega
    have htag : 4 * (bs.length - 1) / 4 = bs.length - 1 := by omega
    rw [hkind, htag]
    exact literal_short rest hlow hhigh hroom
  | longLiteral width bs =>
    obtain ⟨hwidth, hmost, hlow, hhigh⟩ := hfits
    refine ⟨_, _, rfl, ?_⟩
    rw [Encoding.toNat_byte (by omega), element]
    have hkind : 4 * (59 + width) % 4 = 0 := by omega
    have htag : 4 * (59 + width) / 4 = 59 + width := by omega
    rw [hkind, htag]
    exact literal_long rest hwidth hlow hhigh hroom
  | nearCopy length offset =>
    obtain ⟨hshort, hlong, hpos, hback, hnear⟩ := hfits
    refine ⟨_, _, rfl, ?_⟩
    rw [Encoding.toNat_byte (by omega), element]
    have hkind : (1 + 4 * (length - 4) + 32 * (offset / 256)) % 4 = 1 := by omega
    have hlength : 4 + (1 + 4 * (length - 4) + 32 * (offset / 256)) / 4 % 8 = length := by omega
    have hhigh : (1 + 4 * (length - 4) + 32 * (offset / 256)) / 32 = offset / 256 := by omega
    rw [hkind, hlength, hhigh]
    exact copy_near length offset rest hpos hback hroom
  | farCopy wide length offset =>
    obtain ⟨hshort, hlong, hpos, hback, hfar⟩ := hfits
    cases wide with
    | false =>
      refine ⟨_, _, rfl, ?_⟩
      rw [Encoding.toNat_byte (by omega), element]
      have hkind : (2 + 4 * (length - 1)) % 4 = 2 := by omega
      have hlength : (2 + 4 * (length - 1)) / 4 + 1 = length := by omega
      rw [hkind, hlength]
      exact copy_far length offset 2 rest hfar hpos hback hroom
    | true =>
      refine ⟨_, _, rfl, ?_⟩
      rw [Encoding.toNat_byte (by omega), element]
      have hkind : (3 + 4 * (length - 1)) % 4 = 3 := by omega
      have hlength : (3 + 4 * (length - 1)) / 4 + 1 = length := by omega
      rw [hkind, hlength]
      exact copy_far length offset 4 rest hfar hpos hback hroom

/-! ## The whole block -/

/-- Elements that turn what has been written into the content are read to its end. -/
theorem elements_encode {announced : Nat} {out content : List UInt8} {es : List BlockElement} (h : Expands out es content)
    (hroom : content.length ≤ announced) :
    elements announced (Input.ofList (es.flatMap BlockElement.encode)) out.toArray = .ok content.toArray := by
  induction h with
  | done content => rw [List.flatMap_nil, elements, Input.next?_nil]
  | step hfits hmore ih =>
    rename_i out content e es
    have hstep : (e.apply out).length ≤ announced := Nat.le_trans (length_le_of_expands hmore) hroom
    obtain ⟨tag, behind, hencode, helement⟩ := element_encode (es.flatMap BlockElement.encode) hfits hstep
    rw [List.flatMap_cons, hencode, List.cons_append, elements, Input.next?_cons]
    simp only [helement, Input.left_ofList, List.length_cons, List.length_append]
    rw [if_pos (by omega), ih hroom]

/-- A block that holds a content, however its elements were chosen, is expanded to that content. -/
theorem expand_of_holds {block content : List UInt8} (h : Holds block content) (hlength : content.length ≤ maxBlockLength) :
    expand block = .ok content := by
  obtain ⟨es, hexpands, rfl⟩ := h
  have hpos := Encoding.length_varint_pos content.length
  have hheader : header (Input.ofList (Encoding.varint content.length ++ es.flatMap BlockElement.encode)) =
      .ok (content.length, Input.ofList (es.flatMap BlockElement.encode)) := by
    unfold header
    rw [if_neg (by rw [Input.left_ofList, List.length_append]; omega),
      Input.varintOf?_varint (Nat.lt_of_le_of_lt hlength (by decide)) (by decide)]
    simp only
    rw [if_neg (Nat.not_lt.2 hlength)]
  have helements := elements_encode hexpands (Nat.le_refl content.length)
  unfold expand
  rw [hheader]
  simp only [helements, List.size_toArray, if_true]

end Block

end Intake
