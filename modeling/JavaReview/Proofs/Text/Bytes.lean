import JavaReview.Text.Bytes
import Mathlib.Tactic.SplitIfs

/-!
Bytes of texts. The number of bytes of a text adds up over its parts (`Text.byteLength_append`) and is the
number of its bytes in the encoding (`Text.length_bytes`). The first byte of a character tells how many
belong to it, so that the bytes of one text start with those of another exactly if the texts do
(`Text.bytes_isPrefix_iff`).
-/

namespace JavaReview

namespace Text

/-! ## Sizes -/

theorem foldl_byteWidth (n : Nat) (s : List Char) :
    s.foldl (fun n c => n + byteWidth c) n = n + byteLength s := by
  induction s generalizing n with
  | nil => rfl
  | cons c s ih => rw [byteLength, List.foldl_cons, List.foldl_cons, ih, ih, Nat.zero_add, Nat.add_assoc]

@[simp] theorem byteLength_nil : byteLength [] = 0 := rfl

@[simp] theorem byteLength_cons (c : Char) (s : List Char) :
    byteLength (c :: s) = byteWidth c + byteLength s := by
  rw [byteLength, List.foldl_cons, foldl_byteWidth, Nat.zero_add]

@[simp] theorem byteLength_append (s t : List Char) :
    byteLength (s ++ t) = byteLength s + byteLength t := by
  rw [byteLength, List.foldl_append, foldl_byteWidth]
  rfl

theorem byteWidth_pos (c : Char) : 0 < byteWidth c := by
  simp only [byteWidth]
  split_ifs <;> decide

theorem byteWidth_eq_utf8Size (c : Char) : byteWidth c = c.utf8Size := by
  have hval : c.toNat = c.val.toNat := rfl
  simp only [byteWidth, Char.utf8Size, UInt32.le_iff_toNat_le, hval]
  split_ifs <;> simp_all <;> omega

theorem length_charBytes (c : Char) : (charBytes c).length = byteWidth c := by
  simp only [charBytes, byteWidth]
  split_ifs <;> rfl

theorem length_bytes (s : List Char) : (bytes s).length = byteLength s := by
  induction s with
  | nil => rfl
  | cons c s ih =>
    rw [bytes, List.flatMap_cons, List.length_append, ← bytes, ih, length_charBytes, byteLength_cons]

/-! ## Bytes and characters -/

theorem zero_mem_charBytes_iff {c : Char} : 0 ∈ charBytes c ↔ c = '\x00' := by
  have hnull : c = '\x00' ↔ c.toNat = 0 := by
    rw [← Char.toNat_inj]
    rfl
  rw [hnull]
  simp only [charBytes]
  split_ifs <;> simp <;> omega

theorem zero_mem_bytes_iff {s : List Char} : 0 ∈ bytes s ↔ '\x00' ∈ s := by
  rw [bytes, List.mem_flatMap]
  constructor
  · rintro ⟨c, hc, hzero⟩
    rwa [← zero_mem_charBytes_iff.mp hzero]
  · intro h
    exact ⟨'\x00', h, zero_mem_charBytes_iff.mpr rfl⟩

theorem charBytes_ne_nil (c : Char) : charBytes c ≠ [] := by
  rw [← List.length_pos_iff, length_charBytes]
  exact byteWidth_pos c

/-- The bytes of a character are found again at the start of others. -/
theorem charBytes_append_inj {c d : Char} {r s : List Nat} (h : charBytes c ++ r = charBytes d ++ s) :
    c = d ∧ r = s := by
  rw [← Char.toNat_inj]
  simp only [charBytes] at h
  -- the first bytes of characters of different widths are different
  split_ifs at h <;>
    simp only [List.cons_append, List.nil_append, List.cons.injEq] at h <;>
    (refine ⟨?_, ?_⟩ <;> first | omega | simp_all)

theorem bytes_isPrefix_iff {s t : List Char} : bytes s <+: bytes t ↔ s <+: t := by
  induction s generalizing t with
  | nil => simp [bytes]
  | cons c s ih =>
    cases t with
    | nil => simp [bytes, charBytes_ne_nil]
    | cons d t =>
      rw [List.cons_prefix_cons, ← ih, bytes, bytes, List.flatMap_cons, List.flatMap_cons]
      constructor
      · rintro ⟨rest, h⟩
        rw [List.append_assoc] at h
        obtain ⟨hcd, hrest⟩ := charBytes_append_inj h
        exact ⟨hcd, rest, hrest⟩
      · rintro ⟨rfl, h⟩
        exact (List.prefix_append_right_inj _).mpr h

theorem bytes_injective : Function.Injective bytes := by
  intro s t h
  have hprefix : s <+: t := bytes_isPrefix_iff.mp (h ▸ List.prefix_rfl)
  exact hprefix.eq_of_length_le (bytes_isPrefix_iff.mp (h ▸ List.prefix_rfl)).length_le

end Text

theorem byteSize_eq_utf8ByteSize (s : String) : byteSize s = s.utf8ByteSize := by
  rw [byteSize, ← String.ofList_toList (s := s), String.toList_ofList]
  induction s.toList with
  | nil => rfl
  | cons c l ih =>
    rw [String.ofList_cons, String.utf8ByteSize_append, String.utf8ByteSize_singleton, ← ih,
      Text.byteLength_cons, Text.byteWidth_eq_utf8Size]

end JavaReview
