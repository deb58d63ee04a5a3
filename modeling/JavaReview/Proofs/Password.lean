import JavaReview.Password
import JavaReview.Proofs.Text.Bytes
import JavaReview.Proofs.Text.Decimal

/-!
Passwords and tries. The zero byte that ends each round of a key shows where the password ends, as long as
it ends within the key. So two texts without zero bytes have one key exactly if they are equal or fill the
key with the same bytes (`Password.keyOf_eq_iff`).
-/

namespace JavaReview.Password

/-! ## Rounds -/

theorem cycleFrom_of_le {l rest : List Nat} {n : Nat} (h : n ≤ rest.length) :
    cycleFrom l n rest = rest.take n := by
  induction n generalizing rest with
  | zero => rfl
  | succ n ih =>
    cases rest with
    | nil => cases h
    | cons b rest => rw [cycleFrom, ih (Nat.le_of_succ_le_succ h), List.take_succ_cons]

theorem cycleFrom_length_add (l rest : List Nat) (n : Nat) :
    cycleFrom l (rest.length + n) rest = rest ++ cycleFrom l n [] := by
  induction rest with
  | nil => rw [List.length_nil, Nat.zero_add, List.nil_append]
  | cons b rest ih => rw [List.length_cons, Nat.add_right_comm, cycleFrom, ih, List.cons_append]

/-! ## Keys -/

/-- The key of the bytes of a password. -/
def keyOf (bytes : List Nat) : List Nat := cycleFrom (bytes ++ [0]) keyBytes (bytes ++ [0])

theorem key_eq_keyOf (p : String) : key p = keyOf (Text.bytes p.toList) := rfl

variable {a b : List Nat}

/-- A password that ends within its key is followed there by a zero byte. -/
theorem exists_keyOf_eq (h : a.length < keyBytes) : ∃ more, keyOf a = a ++ 0 :: more := by
  obtain ⟨n, hn⟩ : ∃ n, keyBytes = (a ++ [0]).length + n :=
    ⟨keyBytes - (a.length + 1), by rw [List.length_append, List.length_singleton]; omega⟩
  refine ⟨cycleFrom (a ++ [0]) n [], ?_⟩
  rw [keyOf, hn, cycleFrom_length_add, List.append_assoc]
  rfl

theorem keyOf_of_le (h : keyBytes ≤ a.length) : keyOf a = a.take keyBytes := by
  have hround : keyBytes ≤ (a ++ [0]).length := by
    rw [List.length_append]
    omega
  rw [keyOf, cycleFrom_of_le hround, List.take_append_of_le_length h]

theorem zero_mem_keyOf_iff (h : 0 ∉ a) : 0 ∈ keyOf a ↔ a.length < keyBytes := by
  constructor
  · intro hmem
    refine Nat.lt_of_not_le fun hlong => ?_
    rw [keyOf_of_le hlong] at hmem
    exact h (List.mem_of_mem_take hmem)
  · intro hshort
    obtain ⟨more, hkey⟩ := exists_keyOf_eq hshort
    simp [hkey]

/-- Which texts have the key of a text that is not longer than a key. -/
theorem keyOf_eq_iff (ha : 0 ∉ a) (hb : 0 ∉ b) (hlen : a.length ≤ keyBytes) :
    keyOf a = keyOf b ↔ b = a ∨ a.length = keyBytes ∧ a <+: b := by
  rcases Nat.lt_or_eq_of_le hlen with hshort | hfull
  · -- the first zero byte of a key tells where the text ends
    rw [or_iff_left fun h => Nat.ne_of_lt hshort h.1]
    refine ⟨fun h => ?_, fun h => h ▸ rfl⟩
    have hshort' : b.length < keyBytes := by
      rw [← zero_mem_keyOf_iff hb, ← h, zero_mem_keyOf_iff ha]
      exact hshort
    obtain ⟨more, hkey⟩ := exists_keyOf_eq hshort
    obtain ⟨more', hkey'⟩ := exists_keyOf_eq hshort'
    rw [hkey, hkey'] at h
    exact (Text.append_cons_inj_of_notMem_left ha hb h).1.symm
  · have hkey : keyOf a = a := by rw [keyOf_of_le (Nat.le_of_eq hfull.symm), ← hfull, List.take_length]
    constructor
    · intro h
      have hlong : keyBytes ≤ b.length := by
        rw [← Nat.not_lt, ← zero_mem_keyOf_iff hb, ← h, zero_mem_keyOf_iff ha, hfull]
        exact Nat.lt_irrefl _
      rw [hkey, keyOf_of_le hlong] at h
      exact .inr ⟨hfull, h ▸ List.take_prefix _ _⟩
    · rintro (rfl | ⟨-, hprefix⟩)
      · rfl
      · rw [hkey, keyOf_of_le (hfull ▸ hprefix.length_le), ← hfull]
        exact List.prefix_iff_eq_take.mp hprefix

/-! ## Hashing and checking -/

theorem hash_eq_ok_iff {p : String} {h : PasswordHash} :
    hash p = .ok h ↔ (minBytes ≤ byteSize p ∧ byteSize p ≤ keyBytes) ∧ .ofKey (key p) = h := by
  unfold hash
  split_ifs with hshort hlong
  · simp only [false_iff]
    omega
  · simp only [false_iff]
    omega
  · rw [Except.ok.injEq, and_iff_right ⟨Nat.le_of_not_lt hshort, Nat.le_of_not_lt hlong⟩]

theorem check_ofKey_iff {p t : String} (hp : '\x00' ∉ p.toList) (ht : '\x00' ∉ t.toList)
    (hsize : byteSize p ≤ keyBytes) :
    check (.ofKey (key p)) t = true ↔ t = p ∨ byteSize p = keyBytes ∧ p.toList <+: t.toList := by
  rw [check, beq_iff_eq, key_eq_keyOf, key_eq_keyOf]
  rw [← Text.zero_mem_bytes_iff] at hp ht
  rw [byteSize, ← Text.length_bytes] at hsize ⊢
  rw [keyOf_eq_iff hp ht hsize, Text.bytes_injective.eq_iff, String.toList_inj, Text.bytes_isPrefix_iff]

/-- **Passwords are told apart by all of their bytes.** A password is accepted exactly if it has 8 to 72
bytes, and then a try is right exactly if it is the password, or goes on after one that has 72. -/
theorem hash_and_check_iff (p t : String) (hp : '\x00' ∉ p.toList) (ht : '\x00' ∉ t.toList) :
    ((∃ h, hash p = .ok h) ↔ 8 ≤ p.utf8ByteSize ∧ p.utf8ByteSize ≤ 72) ∧
    ∀ h, hash p = .ok h →
      (check h t = true ↔ t = p ∨ p.utf8ByteSize = 72 ∧ p.toList <+: t.toList) := by
  simp only [hash_eq_ok_iff, ← byteSize_eq_utf8ByteSize]
  refine ⟨?_, ?_⟩
  · rw [exists_and_left, and_iff_left ⟨_, rfl⟩]
    rfl
  · rintro h ⟨⟨-, hsize⟩, rfl⟩
    exact check_ofKey_iff hp ht hsize

/-- A password of 72 bytes. -/
def longest : String := String.ofList (List.replicate 72 'p')

/-- What follows a password of 72 bytes is not looked at, and what follows a shorter one is. -/
theorem hash_and_check_iff_longest :
    '\x00' ∉ longest.toList ∧ '\x00' ∉ (longest ++ "q").toList ∧
      (∃ h, hash longest = .ok h ∧ check h (longest ++ "q") = true) ∧
      ∃ h, hash "passwrd1" = .ok h ∧ check h "passwrd1passwrd1" = false := by
  have hnull : '\x00' ∉ longest.toList := by decide +kernel
  have hnull' : '\x00' ∉ (longest ++ "q").toList := by decide +kernel
  obtain ⟨haccepts, hchecks⟩ := hash_and_check_iff longest (longest ++ "q") hnull hnull'
  obtain ⟨haccepts', hchecks'⟩ :=
    hash_and_check_iff "passwrd1" "passwrd1passwrd1" (by decide) (by decide)
  obtain ⟨h, hhash⟩ := haccepts.mpr (by decide +kernel)
  obtain ⟨h', hhash'⟩ := haccepts'.mpr (by decide +kernel)
  refine ⟨hnull, hnull', ⟨h, hhash, (hchecks h hhash).mpr (.inr ⟨?_, ?_⟩)⟩, h', hhash', ?_⟩
  · decide +kernel
  · rw [String.toList_append]
    exact List.prefix_append _ _
  · rw [← Bool.not_eq_true, hchecks' h' hhash']
    decide +kernel

end JavaReview.Password
