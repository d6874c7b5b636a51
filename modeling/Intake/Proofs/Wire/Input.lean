import Intake.Wire.Encoding
import Intake.Wire.Grammar

/-!
# Input: numbers read back from the bytes that write them

A reader that is given what an encoder wrote, with anything behind it, answers what was written and leaves the rest. Here for the
two ways in which numbers stand in both wire formats: groups of seven bits (`varintOf?_septets`, and `varintOf?_varint` for the
shortest of them), and a fixed count of bytes with the lowest first (`littleEndian_encoding`). What was read as a number is also known
to be one (`septets_of_varintOf?`, `varint?_eq_some`).
-/

namespace Intake

open Grammar (Septets)

theorem Grammar.Septets.ne_nil {n : Nat} {bs : List UInt8} (h : Septets n bs) : bs ≠ [] := by
  cases h <;> exact List.cons_ne_nil _ _

namespace Encoding

/-- The number that a byte writes. -/
theorem toNat_byte {n : Nat} (h : n < 256) : (UInt8.ofNat n).toNat = n := by
  rw [UInt8.toNat_ofNat', Nat.mod_eq_of_lt h]

theorem varint_of_lt {n : Nat} (h : n < 128) : varint n = [UInt8.ofNat n] := by
  rw [varint, if_pos h]

theorem varint_of_le {n : Nat} (h : 128 ≤ n) : varint n = UInt8.ofNat (n % 128 + 128) :: varint (n / 128) := by
  rw [varint, if_neg (Nat.not_lt.2 h)]

/-- What is written for a number are its groups of seven bits. -/
theorem septets_varint (n : Nat) : Septets n (varint n) := by
  induction n using Nat.strongRecOn with
  | ind n ih =>
    by_cases hn : n < 128
    · have hbyte : (UInt8.ofNat n).toNat = n := toNat_byte (by omega)
      have hlast : Septets (UInt8.ofNat n).toNat [UInt8.ofNat n] := .last (by omega)
      rw [hbyte] at hlast
      rw [varint_of_lt hn]
      exact hlast
    · have hbyte : (UInt8.ofNat (n % 128 + 128)).toNat = n % 128 + 128 := toNat_byte (by omega)
      have hmore : Septets _ (UInt8.ofNat (n % 128 + 128) :: varint (n / 128)) := .more (by omega) (ih (n / 128) (by omega))
      have hsum : (UInt8.ofNat (n % 128 + 128)).toNat - 128 + 128 * (n / 128) = n := by omega
      rw [hsum] at hmore
      rw [varint_of_le (Nat.not_lt.1 hn)]
      exact hmore

theorem length_varint_pos (n : Nat) : 0 < (varint n).length := List.length_pos_iff.2 (septets_varint n).ne_nil

/-- A number has no more groups than it needs. -/
theorem length_varint_le {allowed n : Nat} (h : n < Nat.pow 128 allowed) (ha : 0 < allowed) : (varint n).length ≤ allowed := by
  induction allowed generalizing n with
  | zero => exact absurd ha (Nat.lt_irrefl 0)
  | succ allowed ih =>
    by_cases hn : n < 128
    · rw [varint_of_lt hn]
      exact ha
    · have hmore : 0 < allowed := by
        refine Nat.pos_of_ne_zero fun h0 => hn ?_
        subst h0
        exact h
      have hpow : Nat.pow 128 (allowed + 1) = Nat.pow 128 allowed * 128 := rfl
      rw [varint_of_le (Nat.not_lt.1 hn)]
      exact Nat.succ_le_succ (ih (by omega) hmore)

@[simp] theorem length_littleEndian (count n : Nat) : (littleEndian count n).length = count := by
  induction count generalizing n with
  | zero => rfl
  | succ count ih => rw [littleEndian, List.length_cons, ih]

end Encoding

namespace Input

@[simp] theorem left_ofList (bs : List UInt8) : (ofList bs).left = bs.length := rfl

@[simp] theorem next?_nil : (ofList []).next? = none := rfl

@[simp] theorem next?_cons (b : UInt8) (bs : List UInt8) : (ofList (b :: bs)).next? = some (b, ofList bs) := rfl

theorem ofList_bytes (i : Input) : ofList i.bytes = i := by
  obtain ⟨bytes, left, hleft⟩ := i
  subst hleft
  rfl

theorem eq_ofList {i : Input} {bs : List UInt8} (h : i.bytes = bs) : i = ofList bs := by
  rw [← h, ofList_bytes]

/-- Bytes that stand first are taken off. -/
theorem take?_append (bs rest : List UInt8) : (ofList (bs ++ rest)).take? bs.length = some (bs, ofList rest) := by
  unfold take? ofList
  simp only [List.length_append, Nat.le_add_right, if_true, List.take_left, List.drop_left, Nat.add_sub_cancel_left]

/-- What is taken off stands first. -/
theorem bytes_of_take? {n : Nat} {i next : Input} {bs : List UInt8} (h : i.take? n = some (bs, next)) :
    bs.length = n ∧ i.bytes = bs ++ next.bytes := by
  unfold take? at h
  split at h
  · next hn =>
    cases h
    rw [i.left_eq] at hn
    exact ⟨List.length_take_of_le hn, (List.take_append_drop n i.bytes).symm⟩
  · cases h

/-- A number is read back from groups of seven bits, of which there may be more than it needs. -/
theorem varintOf?_septets {allowed n : Nat} {bs : List UInt8} (h : Septets n bs) (hlength : bs.length ≤ allowed) (rest : List UInt8) :
    varintOf? allowed (ofList (bs ++ rest)) = some (n, ofList rest) := by
  induction h generalizing allowed with
  | last hlow =>
    obtain ⟨allowed, rfl⟩ := Nat.exists_eq_succ_of_ne_zero (Nat.ne_of_gt hlength)
    rw [List.singleton_append, varintOf?, next?_cons]
    simp only [hlow, if_true]
  | more hhigh _ ih =>
    rw [List.length_cons] at hlength
    obtain ⟨allowed, rfl⟩ := Nat.exists_eq_succ_of_ne_zero (Nat.ne_of_gt (Nat.lt_of_lt_of_le (Nat.succ_pos _) hlength))
    rw [List.cons_append, varintOf?, next?_cons]
    simp only
    rw [if_neg (Nat.not_lt.2 hhigh), ih (Nat.le_of_succ_le_succ hlength), Option.map_some]

/-- A varint is read back by a reader that allows as many bytes as it has. -/
theorem varintOf?_varint {allowed n : Nat} (h : n < Nat.pow 128 allowed) (ha : 0 < allowed) (rest : List UInt8) :
    varintOf? allowed (ofList (Encoding.varint n ++ rest)) = some (n, ofList rest) :=
  varintOf?_septets (Encoding.septets_varint n) (Encoding.length_varint_le h ha) rest

/-- What is read as a number are groups of seven bits. -/
theorem septets_of_varintOf? {allowed n : Nat} {i next : Input} (h : varintOf? allowed i = some (n, next)) :
    ∃ bs, Septets n bs ∧ bs.length ≤ allowed ∧ i.bytes = bs ++ next.bytes := by
  induction allowed generalizing i n with
  | zero => cases h
  | succ allowed ih =>
    obtain ⟨bytes, left, hleft⟩ := i
    cases bytes with
    | nil => cases h
    | cons b bs =>
      rw [varintOf?] at h
      simp only [next?] at h
      split at h
      · next hlow =>
        cases h
        exact ⟨[b], .last hlow, Nat.succ_le_succ (Nat.zero_le _), rfl⟩
      · next hhigh =>
        obtain ⟨⟨m, rest⟩, hread, hresult⟩ := Option.map_eq_some_iff.1 h
        cases hresult
        obtain ⟨more, hmore, hlength, hbytes⟩ := ih hread
        exact ⟨b :: more, .more (Nat.not_lt.1 hhigh) hmore, Nat.succ_le_succ hlength, congrArg (b :: ·) hbytes⟩

/-- A number of sixty-four bits is read as far as its varint goes. -/
theorem varint?_eq_some {n : Nat} {i next : Input} :
    i.varint? = some (n, next) ↔ ∃ bs, Grammar.Varint n bs ∧ i.bytes = bs ++ next.bytes := by
  unfold varint?
  rw [Option.filter_eq_some_iff]
  constructor
  · rintro ⟨hread, hlt⟩
    obtain ⟨bs, hbs, hlength, hbytes⟩ := septets_of_varintOf? hread
    exact ⟨bs, ⟨hbs, hlength, of_decide_eq_true hlt⟩, hbytes⟩
  · rintro ⟨bs, ⟨hbs, hlength, hlt⟩, hbytes⟩
    rw [eq_ofList hbytes, varintOf?_septets hbs hlength, ofList_bytes]
    exact ⟨rfl, decide_eq_true hlt⟩

/-- Bytes are a varint if the reader takes all of them. -/
theorem varint_iff_read {n : Nat} {bs : List UInt8} :
    ((ofList bs).varint?.map fun r => (r.1, r.2.bytes)) = some (n, []) ↔ Grammar.Varint n bs := by
  rw [Option.map_eq_some_iff]
  constructor
  · rintro ⟨⟨m, next⟩, hread, hresult⟩
    obtain ⟨rfl, hnext⟩ := Prod.mk.inj hresult
    obtain ⟨bs', hbs', hbytes⟩ := varint?_eq_some.1 hread
    have hsame : bs = bs' ++ next.bytes := hbytes
    rw [hnext, List.append_nil] at hsame
    exact hsame ▸ hbs'
  · intro h
    exact ⟨(n, ofList []), varint?_eq_some.2 ⟨bs, h, (List.append_nil bs).symm⟩, rfl⟩

/-- A number is read back from its lowest bytes if it has no more. -/
theorem littleEndian_encoding {count n : Nat} (h : n < Nat.pow 256 count) : littleEndian (Encoding.littleEndian count n) = n := by
  induction count generalizing n with
  | zero => exact (Nat.lt_one_iff.1 h).symm
  | succ count ih =>
    have hbyte : (UInt8.ofNat (n % 256)).toNat = n % 256 := Encoding.toNat_byte (by omega)
    have hpow : Nat.pow 256 (count + 1) = Nat.pow 256 count * 256 := rfl
    have hread := ih (n := n / 256) (by omega)
    unfold littleEndian at hread ⊢
    rw [Encoding.littleEndian, List.foldr_cons, hread, hbyte]
    omega

end Input

namespace Grammar

instance (n : Nat) (bs : List UInt8) : Decidable (Varint n bs) := decidable_of_iff _ Input.varint_iff_read

instance (number : Nat) (w : WireType) (bs : List UInt8) : Decidable (Key number w bs) :=
  decidable_of_iff (1 ≤ number ∧ number < 0x20000000 ∧ Varint (8 * number + w.code) bs)
    ⟨fun h => ⟨h.1, h.2.1, h.2.2⟩, fun h => ⟨h.pos, h.lt, h.varint⟩⟩

end Grammar

end Intake
