import JavaReview.Comparison
import JavaReview.Proofs.Text.Decimal

/-!
The keys that findings are matched by. After its last bar a key has the line, and a numbered key the
line, a hash and the number, so numbered keys of different keys or numbers never meet
(`Comparison.numberedKey_inj`). Before its last bar a key does not tell where the rule ends and the
title starts: findings of one key may differ by a part that moved from the rule to the title
(`Comparison.key_eq_iff`).
-/

namespace JavaReview.Comparison

/-- The rule and the title in a key. -/
def keyHead (f : Finding) : List Char :=
  (normalized f.rule).toList ++ '|' :: (normalized f.title).toList

/-- What follows the key in a numbered key. -/
def keySuffix (n : Nat) : List Char := if n ≤ 1 then [] else '#' :: decimalChars n

theorem toList_key (f : Finding) : (key f).toList = keyHead f ++ '|' :: decimalChars f.line := by
  simp [key, keyHead, decimal]

theorem toList_numberedKey (f : Finding) (n : Nat) :
    (numberedKey (key f) n).toList = keyHead f ++ '|' :: (decimalChars f.line ++ keySuffix n) := by
  unfold numberedKey keySuffix
  split <;> simp [toList_key, decimal]

theorem bar_notMem_keySuffix (n : Nat) : '|' ∉ keySuffix n := by
  unfold keySuffix
  split
  · simp
  · simpa using notMem_decimalChars (by decide) (by decide) (n : Int)

/-- Two texts without a hash, each with a suffix, are equal only part by part. -/
theorem append_keySuffix_inj {a b : List Char} {m n : Nat} (ha : '#' ∉ a) (hb : '#' ∉ b)
    (hm : 1 ≤ m) (hn : 1 ≤ n) (h : a ++ keySuffix m = b ++ keySuffix n) : a = b ∧ m = n := by
  unfold keySuffix at h
  split at h <;> split at h
  · exact ⟨by simpa using h, by omega⟩
  · rw [List.append_nil] at h
    exact absurd (by simp [h]) ha
  · rw [List.append_nil] at h
    exact absurd (by simp [← h]) hb
  · obtain ⟨hab, hmn⟩ := Text.append_cons_inj_of_notMem_left ha hb h
    exact ⟨hab, Int.ofNat_inj.mp (decimalChars_inj hmn)⟩

theorem numberedKey_inj {f g : Finding} {m n : Nat} (hm : 1 ≤ m) (hn : 1 ≤ n)
    (h : numberedKey (key f) m = numberedKey (key g) n) : key f = key g ∧ m = n := by
  have hlist := congrArg String.toList h
  rw [toList_numberedKey, toList_numberedKey] at hlist
  have hbar (i : Int) (j : Nat) : '|' ∉ decimalChars i ++ keySuffix j := by
    rw [List.mem_append, not_or]
    exact ⟨notMem_decimalChars (by decide) (by decide) i, bar_notMem_keySuffix j⟩
  obtain ⟨hhead, htail⟩ := Text.append_cons_inj_of_notMem_right (hbar _ _) (hbar _ _) hlist
  obtain ⟨hline, hnumber⟩ := append_keySuffix_inj (notMem_decimalChars (by decide) (by decide) _)
    (notMem_decimalChars (by decide) (by decide) _) hm hn htail
  refine ⟨String.toList_injective ?_, hnumber⟩
  rw [toList_key, toList_key, hline, hhead]

/-- What findings are meant to be matched by. -/
def triple (f : Finding) : String × String × Int := (normalized f.rule, normalized f.title, f.line)

/-- The findings have one line, and a part that ends the rule of `f` after a bar starts the title of
`g` before one. -/
def BarShift (f g : Finding) : Prop :=
  f.line = g.line ∧ ∃ part : List Char,
    (normalized f.rule).toList = (normalized g.rule).toList ++ '|' :: part ∧
      (normalized g.title).toList = part ++ '|' :: (normalized f.title).toList

theorem BarShift.triple_ne {f g : Finding} (h : BarShift f g) : triple f ≠ triple g := by
  obtain ⟨-, part, hrule, -⟩ := h
  intro heq
  obtain ⟨hsame, -⟩ := Prod.mk.inj heq
  have hlength := congrArg List.length hrule
  rw [hsame, List.length_append, List.length_cons] at hlength
  omega

theorem BarShift.key_eq {f g : Finding} (h : BarShift f g) : key f = key g := by
  obtain ⟨hline, part, hrule, htitle⟩ := h
  apply String.toList_injective
  rw [toList_key, toList_key, keyHead, keyHead, hrule, htitle, hline]
  simp only [List.append_assoc, List.cons_append]

theorem key_eq_of_triple_eq {f g : Finding} (h : triple f = triple g) : key f = key g := by
  obtain ⟨hrule, hrest⟩ := Prod.mk.inj h
  obtain ⟨htitle, hline⟩ := Prod.mk.inj hrest
  rw [key, key, hrule, htitle, hline]

/-- Equal heads of keys, with the bar that ends the rule of `f` at the same place or further left. -/
theorem triple_eq_or_barShift {f g : Finding} {m : List Char} (hline : f.line = g.line)
    (hrule : (normalized g.rule).toList = (normalized f.rule).toList ++ m)
    (htitle : '|' :: (normalized f.title).toList = m ++ '|' :: (normalized g.title).toList) :
    triple f = triple g ∨ BarShift g f := by
  cases m with
  | nil =>
    left
    rw [List.append_nil] at hrule
    have hrule' := String.toList_injective hrule
    have htitle' := String.toList_injective (List.cons.inj htitle).2
    rw [triple, triple, hrule', htitle', hline]
  | cons y part =>
    right
    rw [List.cons_append] at htitle
    obtain ⟨hy, htitle⟩ := List.cons.inj htitle
    exact ⟨hline.symm, part, hy ▸ hrule, htitle⟩

theorem key_eq_iff {f g : Finding} :
    key f = key g ↔ triple f = triple g ∨ BarShift f g ∨ BarShift g f := by
  constructor
  · intro h
    have hlist := congrArg String.toList h
    rw [toList_key, toList_key] at hlist
    obtain ⟨hhead, hdec⟩ := Text.append_cons_inj_of_notMem_right
      (notMem_decimalChars (by decide) (by decide) _)
      (notMem_decimalChars (by decide) (by decide) _) hlist
    have hline := decimalChars_inj hdec
    rw [keyHead, keyHead] at hhead
    rcases List.append_eq_append_iff.mp hhead with ⟨m, hrule, htitle⟩ | ⟨m, hrule, htitle⟩
    · rcases triple_eq_or_barShift hline hrule htitle with h | h
      · exact .inl h
      · exact .inr (.inr h)
    · rcases triple_eq_or_barShift hline.symm hrule htitle with h | h
      · exact .inl h.symm
      · exact .inr (.inl h)
  · rintro (h | h | h)
    · exact key_eq_of_triple_eq h
    · exact h.key_eq
    · exact h.key_eq.symm

end JavaReview.Comparison
