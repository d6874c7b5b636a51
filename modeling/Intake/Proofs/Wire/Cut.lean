import Intake.Proofs.Wire.Input
import Intake.Wire.WriteRequest

/-!
# Cut: a body that is cut off is no body

A block is read from its front, and what is read does not depend on what follows. So what one body reads is also read where more
bytes follow (`elements_append`); as each element adds to the output and the header announces its length, no block begins another
(`eq_nil_of_expand_append`). A part of an accepted body is not accepted, and neither is an accepted body with bytes behind it.
-/

namespace Intake

namespace Input

/-- What is taken off is taken off as well where more bytes follow. -/
theorem take?_more {n : Nat} {i next : Input} {bs : List UInt8} (h : i.take? n = some (bs, next)) (more : List UInt8) :
    (ofList (i.bytes ++ more)).take? n = some (bs, ofList (next.bytes ++ more)) := by
  obtain ⟨rfl, hbytes⟩ := bytes_of_take? h
  rw [hbytes, List.append_assoc, take?_append]

theorem left_le_of_take? {n : Nat} {i next : Input} {bs : List UInt8} (h : i.take? n = some (bs, next)) : next.left ≤ i.left := by
  rw [next.left_eq, i.left_eq, (bytes_of_take? h).2, List.length_append]
  exact Nat.le_add_left _ _

/-- A number is read as well where more bytes follow. -/
theorem varintOf?_more {allowed n : Nat} {i next : Input} (h : varintOf? allowed i = some (n, next)) (more : List UInt8) :
    varintOf? allowed (ofList (i.bytes ++ more)) = some (n, ofList (next.bytes ++ more)) := by
  obtain ⟨bs, hbs, hlength, hbytes⟩ := septets_of_varintOf? h
  rw [hbytes, List.append_assoc, varintOf?_septets hbs hlength]

end Input

namespace Block

variable {announced : Nat} {i next : Input} {out out' : Array UInt8}

/-! ## One element -/

/-- What was read from an input is read as well where more bytes follow, and it added to the output. -/
structure Advances (announced : Nat) (read : Input → Except BlockError (Input × Array UInt8)) (i next : Input)
    (out out' : Array UInt8) : Prop where
  append : ∀ more, read (Input.ofList (i.bytes ++ more)) = .ok (Input.ofList (next.bytes ++ more), out')
  left_le : next.left ≤ i.left
  grows : out.size < out'.size
  size_le : out'.size ≤ announced

theorem size_append_bytes (out : Array UInt8) (bs : List UInt8) : (out ++ bs.toArray).size = out.size + bs.length :=
  Array.size_append

@[simp] theorem size_repeatBack (offset n : Nat) (out : Array UInt8) : (repeatBack offset n out).size = out.size + n := by
  induction n generalizing out with
  | zero => rfl
  | succ n ih =>
    rw [repeatBack, ih, Array.size_push]
    omega

theorem literal_advances {tagRest : Nat} (h : literal announced tagRest i out = .ok (next, out')) :
    Advances announced (fun i => literal announced tagRest i out) i next out out' := by
  unfold literal at h
  dsimp only at h
  split at h
  · next hshort =>
    split at h
    · next bs rest htake =>
      split at h
      · next hroom =>
        cases h
        have hsize := size_append_bytes out bs
        have hlength := (Input.bytes_of_take? htake).1
        refine ⟨fun more => ?_, Input.left_le_of_take? htake, by omega, by omega⟩
        unfold literal
        dsimp only
        rw [if_pos hshort, Input.take?_more htake]
        exact if_pos hroom
      · cases h
    · cases h
  · next hlong =>
    split at h
    · next number behind hnumber =>
      split at h
      · next bs rest htake =>
        split at h
        · next hroom =>
          cases h
          have hsize := size_append_bytes out bs
          have hlength := (Input.bytes_of_take? htake).1
          refine ⟨fun more => ?_, Nat.le_trans (Input.left_le_of_take? htake) (Input.left_le_of_take? hnumber), by omega, by omega⟩
          unfold literal
          dsimp only
          rw [if_neg hlong, Input.take?_more hnumber]
          dsimp only
          rw [Input.take?_more htake]
          exact if_pos hroom
        · cases h
      · cases h
    · cases h

theorem copy_advances {n high width : Nat} (hn : 0 < n) (h : copy announced n high width i out = .ok (next, out')) :
    Advances announced (fun i => copy announced n high width i out) i next out out' := by
  unfold copy at h
  split at h
  · cases h
  · next bs rest htake =>
    dsimp only at h
    split at h
    · cases h
    · next hoffset =>
      split at h
      · cases h
      · next hroom =>
        cases h
        have hsize := size_repeatBack (high * 256 + Input.littleEndian bs) n out
        refine ⟨fun more => ?_, Input.left_le_of_take? htake, by omega, by omega⟩
        unfold copy
        rw [Input.take?_more htake]
        dsimp only
        rw [if_neg hoffset, if_neg hroom]

theorem element_advances {tag : Nat} (h : element announced tag i out = .ok (next, out')) :
    Advances announced (fun i => element announced tag i out) i next out out' := by
  unfold element at h ⊢
  generalize tag % 4 = kind at h ⊢
  rcases kind with _ | _ | _ | kind
  · exact literal_advances h
  · exact copy_advances (by omega) h
  · exact copy_advances (by omega) h
  · exact copy_advances (by omega) h

/-! ## The whole block -/

/-- After one element the others follow. -/
theorem elements_cons {tag : UInt8} {bs : List UInt8} (h : element announced tag.toNat (Input.ofList bs) out = .ok (next, out')) :
    elements announced (Input.ofList (tag :: bs)) out = elements announced next out' := by
  have hleft : next.left < (Input.ofList (tag :: bs)).left := Nat.lt_succ_of_le (element_advances h).left_le
  rw [elements, Input.next?_cons]
  simp only [h]
  rw [if_pos hleft]

/-- Elements are read to the end of the input, one after the other. -/
theorem elements_cases (h : elements announced i out = .ok out') :
    (i = Input.ofList [] ∧ out' = out) ∨
      ∃ (tag : UInt8) (bs : List UInt8) (next : Input) (written : Array UInt8), i = Input.ofList (tag :: bs) ∧
        element announced tag.toNat (Input.ofList bs) out = .ok (next, written) ∧ elements announced next written = .ok out' := by
  cases hbytes : i.bytes with
  | nil =>
    obtain rfl := Input.eq_ofList hbytes
    rw [elements, Input.next?_nil] at h
    cases h
    exact .inl ⟨rfl, rfl⟩
  | cons tag bs =>
    obtain rfl := Input.eq_ofList hbytes
    cases helement : element announced tag.toNat (Input.ofList bs) out with
    | error e =>
      rw [elements, Input.next?_cons] at h
      simp only [helement] at h
      cases h
    | ok r =>
      obtain ⟨next, written⟩ := r
      exact .inr ⟨tag, bs, next, written, rfl, helement, elements_cons helement ▸ h⟩

/-- What some elements write is written first where more of them follow. -/
theorem elements_append (h : elements announced i out = .ok out') (more : List UInt8) :
    elements announced (Input.ofList (i.bytes ++ more)) out = elements announced (Input.ofList more) out' := by
  -- on the number of bytes that are left, which every element lowers
  induction hn : i.left using Nat.strongRecOn generalizing i out with
  | ind n ih =>
    obtain ⟨rfl, rfl⟩ | ⟨tag, bs, next, written, rfl, helement, hrest⟩ := elements_cases h
    · rfl
    · have hadvances := element_advances helement
      have hleft : next.left < n := hn ▸ Nat.lt_succ_of_le hadvances.left_le
      have hcons := elements_cons (hadvances.append more)
      exact hcons.trans (ih next.left hleft hrest rfl)

/-- Elements add to the output, as far as the header announced it. -/
theorem elements_grow (h : elements announced i out = .ok out') :
    i = Input.ofList [] ∧ out' = out ∨ out.size < out'.size ∧ out'.size ≤ announced := by
  induction hn : i.left using Nat.strongRecOn generalizing i out with
  | ind n ih =>
    obtain hend | ⟨tag, bs, next, written, rfl, helement, hrest⟩ := elements_cases h
    · exact .inl hend
    · have hadvances := element_advances helement
      have hleft : next.left < n := hn ▸ Nat.lt_succ_of_le hadvances.left_le
      obtain ⟨-, rfl⟩ | ⟨hgrows, hle⟩ := ih next.left hleft hrest rfl
      · exact .inr ⟨hadvances.grows, hadvances.size_le⟩
      · exact .inr ⟨Nat.lt_trans hadvances.grows hgrows, hle⟩

/-- The header is read as well where more bytes follow. -/
theorem header_more (h : header i = .ok (announced, next)) (more : List UInt8) :
    header (Input.ofList (i.bytes ++ more)) = .ok (announced, Input.ofList (next.bytes ++ more)) := by
  unfold header at h ⊢
  split at h
  · cases h
  · next hnonempty =>
    split at h
    · cases h
    · next n rest hread =>
      split at h
      · cases h
      · next hlarge =>
        cases h
        have hlonger : (Input.ofList (i.bytes ++ more)).left ≠ 0 := by
          rw [i.left_eq] at hnonempty
          rw [Input.left_ofList, List.length_append]
          omega
        rw [if_neg hlonger, Input.varintOf?_more hread]
        dsimp only
        rw [if_neg hlarge]

/-- A block is expanded to as many bytes as its header announces. -/
theorem expand_cases {block content : List UInt8} (h : expand block = .ok content) :
    ∃ (announced : Nat) (behind : Input) (out : Array UInt8), header (Input.ofList block) = .ok (announced, behind) ∧
      elements announced behind #[] = .ok out ∧ out.size = announced := by
  unfold expand at h
  split at h
  · cases h
  · next announced behind hheader =>
    split at h
    · cases h
    · next out helements =>
      split at h
      · next hsize => exact ⟨announced, behind, out, hheader, helements, hsize⟩
      · cases h

/-- No block begins another one: with bytes behind it, or without its last ones, it is no block. -/
theorem eq_nil_of_expand_append {block more content content' : List UInt8} (h : expand block = .ok content)
    (hmore : expand (block ++ more) = .ok content') : more = [] := by
  obtain ⟨announced, behind, out, hheader, helements, hsize⟩ := expand_cases h
  obtain ⟨announced', behind', out', hheader', helements', hsize'⟩ := expand_cases hmore
  have hsame := (header_more hheader more).symm.trans hheader'
  cases hsame
  rw [elements_append helements] at helements'
  obtain ⟨hend, -⟩ | ⟨hgrows, -⟩ := elements_grow helements'
  · exact congrArg Input.bytes hend
  · exact absurd (hsize.trans hsize'.symm) (Nat.ne_of_lt hgrows)

end Block

namespace WriteRequest

/-- What is accepted as a request is a block. -/
theorem expand_of_decode {body : List UInt8} {r : WriteRequest} (h : decode body = .ok r) :
    ∃ content, Block.expand body = .ok content := by
  unfold decode at h
  cases hexpand : Block.expand body with
  | error e =>
    rw [hexpand] at h
    cases h
  | ok content => exact ⟨content, rfl⟩

/-- A body that begins an accepted one, or begins with it, is no block. -/
theorem decode_cut {body other : List UInt8} {r : WriteRequest} (h : decode body = .ok r)
    (hother : other <+: body ∨ body <+: other) (hne : other ≠ body) : ∃ e, decode other = .error (.block e) := by
  obtain ⟨content, hbody⟩ := expand_of_decode h
  cases hexpand : Block.expand other with
  | error e =>
    refine ⟨e, ?_⟩
    unfold decode
    rw [hexpand]
  | ok content' =>
    obtain ⟨more, rfl⟩ | ⟨more, rfl⟩ := hother
    · obtain rfl := Block.eq_nil_of_expand_append hexpand hbody
      exact absurd (List.append_nil other).symm hne
    · obtain rfl := Block.eq_nil_of_expand_append hbody hexpand
      exact absurd (List.append_nil body) hne

end WriteRequest

end Intake
