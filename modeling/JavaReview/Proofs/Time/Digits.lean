import JavaReview.Time.Rfc3339
import Mathlib.Algebra.Group.Nat.Defs
import Mathlib.Tactic.Tauto

/-!
Decimal digits of a fixed width and their order as texts. Texts of one length compare part by part
(`append_lt_append_iff`), so digits of one width compare as the numbers do
(`Timestamp.digits_lt_digits_iff`). Without their trailing zeros they still do, unless the digits of
one number start those of the other; that is so if it is the other with its last digits made zero
(`Timestamp.stripZeros_prefix_iff`).
-/

namespace JavaReview

/-! ## The order of texts -/

theorem append_lt_append_iff {a b c d : List Char} (h : a.length = b.length) :
    a ++ c < b ++ d ↔ a < b ∨ a = b ∧ c < d := by
  induction a generalizing b with
  | nil =>
    rw [List.length_nil, eq_comm, List.length_eq_zero_iff] at h
    subst h
    simp
  | cons x a ih =>
    cases b with
    | nil => cases h
    | cons y b =>
      rw [List.cons_append, List.cons_append, List.cons_lt_cons_iff, List.cons_lt_cons_iff,
        ih (Nat.succ.inj h), List.cons.injEq]
      tauto

/-- Texts of which neither starts with the other compare as they do with anything after them. -/
theorem append_lt_append_iff_of_incomparable {a b : List Char} (c d : List Char) (hab : ¬ a <+: b)
    (hba : ¬ b <+: a) : a ++ c < b ++ d ↔ a < b := by
  induction a generalizing b with
  | nil => exact absurd List.nil_prefix hab
  | cons x a ih =>
    cases b with
    | nil => exact absurd List.nil_prefix hba
    | cons y b =>
      rw [List.cons_append, List.cons_append, List.cons_lt_cons_iff, List.cons_lt_cons_iff]
      by_cases hxy : x = y
      · subst hxy
        rw [List.cons_prefix_cons] at hab hba
        rw [ih (fun h => hab ⟨rfl, h⟩) (fun h => hba ⟨rfl, h⟩)]
      · simp [hxy]

namespace Timestamp

/-! ## Digits of a fixed width -/

@[simp] theorem length_digits (w n : Nat) : (digits w n).length = w := by
  induction w generalizing n with
  | zero => rfl
  | succ w ih => simp [digits, ih]

theorem digitChar_lt_digitChar_iff {i j : Nat} (hi : i < 10) (hj : j < 10) :
    Nat.digitChar i < Nat.digitChar j ↔ i < j := by
  have hall : ∀ i j : Fin 10, Nat.digitChar i < Nat.digitChar j ↔ i < j := by decide
  exact hall ⟨i, hi⟩ ⟨j, hj⟩

theorem digitChar_inj {i j : Nat} (hi : i < 10) (hj : j < 10)
    (h : Nat.digitChar i = Nat.digitChar j) : i = j := by
  have hall : ∀ i j : Fin 10, Nat.digitChar i = Nat.digitChar j → i = j := by decide
  exact Fin.mk.inj (hall ⟨i, hi⟩ ⟨j, hj⟩ h)

theorem digits_inj {w m n : Nat} (hm : m < 10 ^ w) (hn : n < 10 ^ w)
    (h : digits w m = digits w n) : m = n := by
  induction w generalizing m n with
  | zero => omega
  | succ w ih =>
    rw [Nat.pow_succ] at hm hn
    obtain ⟨hinit, hlast⟩ := List.append_inj' h rfl
    have hdiv := ih (by omega) (by omega) hinit
    have hmod := digitChar_inj (Nat.mod_lt m (by decide : 10 > 0))
      (Nat.mod_lt n (by decide : 10 > 0)) (List.cons.inj hlast).1
    omega

theorem digits_lt_digits_iff {w m n : Nat} (hm : m < 10 ^ w) (hn : n < 10 ^ w) :
    digits w m < digits w n ↔ m < n := by
  induction w generalizing m n with
  | zero =>
    simp only [digits, List.lt_irrefl, false_iff]
    omega
  | succ w ih =>
    rw [Nat.pow_succ] at hm hn
    have hinit : digits w (m / 10) = digits w (n / 10) ↔ m / 10 = n / 10 :=
      ⟨digits_inj (by omega) (by omega), fun h => by rw [h]⟩
    have hlast := digitChar_lt_digitChar_iff (Nat.mod_lt m (by decide : 10 > 0))
      (Nat.mod_lt n (by decide : 10 > 0))
    rw [digits, digits, append_lt_append_iff (by simp), ih (by omega) (by omega), hinit]
    simp only [List.cons_lt_cons_iff, List.lt_irrefl, and_false, or_false, hlast]
    omega

/-- A field of digits decides, and what follows it only if the field is the same. -/
theorem digits_append_lt_iff {w m n : Nat} {c d : List Char} (hm : m < 10 ^ w) (hn : n < 10 ^ w) :
    digits w m ++ c < digits w n ++ d ↔ m < n ∨ m = n ∧ c < d := by
  rw [append_lt_append_iff (by simp), digits_lt_digits_iff hm hn]
  refine or_congr_right (and_congr_left fun _ => ⟨digits_inj hm hn, fun h => by rw [h]⟩)

/-- The last digits of a number, after those before them. -/
theorem digits_add (w j n : Nat) : digits (w + j) n = digits w (n / 10 ^ j) ++ digits j n := by
  induction j generalizing n with
  | zero => simp [digits]
  | succ j ih =>
    rw [← Nat.add_assoc, digits, ih, digits, List.append_assoc, Nat.div_div_eq_div_mul,
      Nat.pow_succ, Nat.mul_comm 10]

theorem lt_Z_of_mem_digits {w n : Nat} {c : Char} (h : c ∈ digits w n) : c < 'Z' := by
  have hall : ∀ i : Fin 10, Nat.digitChar i < 'Z' := by decide
  induction w generalizing n with
  | zero => cases h
  | succ w ih =>
    rw [digits, List.mem_append, List.mem_singleton] at h
    rcases h with h | rfl
    · exact ih h
    · exact hall ⟨n % 10, Nat.mod_lt n (by decide)⟩

/-! ## Trailing zeros -/

theorem stripZeros_concat (ds : List Char) (c : Char) :
    stripZeros (ds ++ [c]) = if c = '0' then stripZeros ds else ds ++ [c] := by
  unfold stripZeros
  rw [List.reverse_append, List.reverse_singleton, List.singleton_append, List.dropWhile_cons]
  by_cases h : c = '0'
  · simp [h]
  · simp [h]

theorem digitChar_eq_zero_iff {i : Nat} (hi : i < 10) : Nat.digitChar i = '0' ↔ i = 0 := by
  have hall : ∀ i : Fin 10, Nat.digitChar i = '0' ↔ (i : Nat) = 0 := by decide
  exact hall ⟨i, hi⟩

/-- Without their trailing zeros the digits of a number are those of the number without its factors
of ten. -/
theorem stripZeros_digits (w n : Nat) :
    ∃ j ≤ w, stripZeros (digits w n) = digits (w - j) (n / 10 ^ j) ∧ 10 ^ j ∣ n ∧
      ∀ k ≤ w, 10 ^ k ∣ n → k ≤ j := by
  induction w generalizing n with
  | zero => exact ⟨0, Nat.le_refl _, rfl, by simp, fun k hk _ => hk⟩
  | succ w ih =>
    have hzero := digitChar_eq_zero_iff (Nat.mod_lt n (by decide : 10 > 0))
    rw [digits, stripZeros_concat, if_congr hzero rfl rfl]
    by_cases hn : n % 10 = 0
    · rw [if_pos hn]
      have hten := Nat.dvd_of_mod_eq_zero hn
      obtain ⟨j, hj, hdigits, hdvd, hmax⟩ := ih (n / 10)
      rw [Nat.div_div_eq_div_mul, Nat.mul_comm, ← Nat.pow_succ] at hdigits
      refine ⟨j + 1, by omega, by rw [hdigits, Nat.add_sub_add_right], ?_, ?_⟩
      · rw [Nat.pow_succ, Nat.mul_comm]
        exact (Nat.dvd_div_iff_mul_dvd hten).mp hdvd
      · rintro (_ | k) hk hkdvd
        · exact Nat.zero_le _
        · rw [Nat.pow_succ, Nat.mul_comm] at hkdvd
          exact Nat.succ_le_succ (hmax k (by omega) ((Nat.dvd_div_iff_mul_dvd hten).mpr hkdvd))
    · rw [if_neg hn]
      refine ⟨0, by omega, by simp [digits], by simp, ?_⟩
      rintro (_ | k) - hkdvd
      · exact Nat.le_refl _
      · exact absurd (Nat.mod_eq_zero_of_dvd (Nat.dvd_trans (Nat.dvd_mul_left 10 (10 ^ k)) hkdvd)) hn

theorem digits_eq_stripZeros_append (w n : Nat) :
    ∃ rest, digits w n = stripZeros (digits w n) ++ rest := by
  obtain ⟨j, hj, hdigits, -, -⟩ := stripZeros_digits w n
  refine ⟨digits j n, ?_⟩
  rw [hdigits, ← digits_add, Nat.sub_add_cancel hj]

/-- One number's digits without their trailing zeros start another's if the first number is the
second with its last digits made zero. -/
theorem stripZeros_prefix_iff {w m n : Nat} (hm : m < 10 ^ w) (hn : n < 10 ^ w) :
    stripZeros (digits w m) <+: stripZeros (digits w n) ↔ ∃ j ≤ w, m = n / 10 ^ j * 10 ^ j := by
  obtain ⟨i, hi, hmdigits, hmdvd, hmmax⟩ := stripZeros_digits w m
  obtain ⟨k, hk, hndigits, hndvd, -⟩ := stripZeros_digits w n
  constructor
  · intro h
    -- Both lists of `w - i` digits start the digits of `n`, so they are the same.
    obtain ⟨rest, hrest⟩ := digits_eq_stripZeros_append w n
    have hstart : digits (w - i) (m / 10 ^ i) <+: digits w n := by
      rw [← hmdigits, hrest]
      exact h.trans (List.prefix_append _ _)
    have hown : digits (w - i) (n / 10 ^ i) <+: digits w n := by
      have hsplit := digits_add (w - i) i n
      rw [Nat.sub_add_cancel hi] at hsplit
      exact hsplit ▸ List.prefix_append _ _
    have heq := (List.prefix_of_prefix_length_le hstart hown (by simp)).eq_of_length (by simp)
    have hpow : 10 ^ w = 10 ^ (w - i) * 10 ^ i := by rw [← Nat.pow_add, Nat.sub_add_cancel hi]
    have hdiv := digits_inj (Nat.div_lt_of_lt_mul (by rwa [hpow, Nat.mul_comm] at hm))
      (Nat.div_lt_of_lt_mul (by rwa [hpow, Nat.mul_comm] at hn)) heq
    refine ⟨i, hi, ?_⟩
    rw [← hdiv, Nat.div_mul_cancel hmdvd]
  · rintro ⟨j, hj, hmn⟩
    have hjdvd : 10 ^ j ∣ m := ⟨n / 10 ^ j, by rw [hmn, Nat.mul_comm]⟩
    have hji := hmmax j hj hjdvd
    have hdiv : m / 10 ^ i = n / 10 ^ i := by
      rw [hmn, ← Nat.add_sub_cancel' hji, Nat.pow_add, ← Nat.div_div_eq_div_mul,
        ← Nat.div_div_eq_div_mul, Nat.mul_div_cancel _ (Nat.pow_pos (by decide))]
    -- If the cut took only zeros of `n`, the numbers are the same.
    have hki : k ≤ i := by
      rcases Nat.le_total k j with hkj | hjk
      · exact Nat.le_trans hkj hji
      · rw [Nat.div_mul_cancel (Nat.dvd_trans (Nat.pow_dvd_pow 10 hjk) hndvd)] at hmn
        exact hmmax k hk (hmn ▸ hndvd)
    have hsplit := digits_add (w - i) (i - k) (n / 10 ^ k)
    rw [Nat.div_div_eq_div_mul, ← Nat.pow_add, Nat.add_sub_cancel' hki, ← hdiv,
      show w - i + (i - k) = w - k by omega] at hsplit
    rw [hmdigits, hndigits, hsplit]
    exact List.prefix_append _ _

theorem stripZeros_inj {w m n : Nat} (hm : m < 10 ^ w) (hn : n < 10 ^ w)
    (h : stripZeros (digits w m) = stripZeros (digits w n)) : m = n := by
  obtain ⟨i, -, hmn⟩ := (stripZeros_prefix_iff hm hn).mp ⟨[], by rw [List.append_nil, h]⟩
  obtain ⟨j, -, hnm⟩ := (stripZeros_prefix_iff hn hm).mp ⟨[], by rw [List.append_nil, h]⟩
  have hle := Nat.div_mul_le_self n (10 ^ i)
  have hge := Nat.div_mul_le_self m (10 ^ j)
  omega

theorem stripZeros_lt_iff {w m n : Nat} (hm : m < 10 ^ w) (hn : n < 10 ^ w)
    (hmn : ¬ stripZeros (digits w m) <+: stripZeros (digits w n))
    (hnm : ¬ stripZeros (digits w n) <+: stripZeros (digits w m)) :
    stripZeros (digits w m) < stripZeros (digits w n) ↔ m < n := by
  obtain ⟨c, hc⟩ := digits_eq_stripZeros_append w m
  obtain ⟨d, hd⟩ := digits_eq_stripZeros_append w n
  rw [← append_lt_append_iff_of_incomparable c d hmn hnm, ← hc, ← hd, digits_lt_digits_iff hm hn]

end Timestamp

end JavaReview
