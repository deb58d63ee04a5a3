import JavaReview.Text.Decimal

/-!
Decimal texts as parts of longer texts: they hold digits and a sign only, a number is found again from
its text (`readDecimal?_decimalChars`), and a text that is cut at a mark splits in one way if the mark
does not occur on one side.
-/

namespace JavaReview

namespace Text

variable {α : Type} {x : α} {a b c d : List α}

/-- The place of a mark that does not occur before it. -/
theorem append_cons_inj_of_notMem_left (ha : x ∉ a) (hc : x ∉ c)
    (h : a ++ x :: b = c ++ x :: d) : a = c ∧ b = d := by
  rcases List.append_eq_append_iff.mp h with ⟨m, hm, hrest⟩ | ⟨m, hm, hrest⟩
  · cases m with
    | nil => simp_all
    | cons y m =>
      obtain ⟨rfl, -⟩ := List.cons.inj hrest
      exact absurd (by simp [hm]) hc
  · cases m with
    | nil => simp_all
    | cons y m =>
      obtain ⟨rfl, -⟩ := List.cons.inj hrest
      exact absurd (by simp [hm]) ha

/-- The place of a mark that does not occur after it. -/
theorem append_cons_inj_of_notMem_right (hb : x ∉ b) (hd : x ∉ d)
    (h : a ++ x :: b = c ++ x :: d) : a = c ∧ b = d := by
  have hrev := congrArg List.reverse h
  simp only [List.reverse_append, List.reverse_cons, List.append_assoc, List.singleton_append]
    at hrev
  obtain ⟨hbd, hac⟩ := append_cons_inj_of_notMem_left (by simpa using hb) (by simpa using hd) hrev
  exact ⟨List.reverse_inj.mp hac, List.reverse_inj.mp hbd⟩

end Text

theorem notMem_toDigits {c : Char} (h : c.isDigit = false) (n : Nat) : c ∉ Nat.toDigits 10 n := by
  intro hc
  have hdigit := Nat.isDigit_of_mem_toDigits (by decide) (by decide) hc
  rw [h] at hdigit
  contradiction

theorem notMem_decimalChars {c : Char} (hdigit : c.isDigit = false) (hminus : c ≠ '-') (n : Int) :
    c ∉ decimalChars n := by
  unfold decimalChars
  split
  · simpa [hminus] using notMem_toDigits hdigit _
  · exact notMem_toDigits hdigit _

theorem toDigits_inj {m n : Nat} (h : Nat.toDigits 10 m = Nat.toDigits 10 n) : m = n := by
  rw [← Nat.ofDigitChars_ten_toDigits (n := m), h, Nat.ofDigitChars_ten_toDigits]

theorem decimalChars_inj {m n : Int} (h : decimalChars m = decimalChars n) : m = n := by
  unfold decimalChars at h
  split at h <;> split at h
  · have := toDigits_inj (List.cons.inj h).2
    omega
  · exact absurd (h ▸ List.mem_cons_self) (notMem_toDigits (by decide) _)
  · exact absurd (h ▸ List.mem_cons_self) (notMem_toDigits (by decide) _)
  · have := toDigits_inj h
    omega

/-! ## Reading -/

theorem digitsValue?_toDigits (n : Nat) : digitsValue? (Nat.toDigits 10 n) = some n := by
  have hne : Nat.toDigits 10 n ≠ [] := Nat.toDigits_ne_nil
  have hall : (Nat.toDigits 10 n).all Char.isDigit = true := by
    rw [List.all_eq_true]
    exact fun c hc => Nat.isDigit_of_mem_toDigits (by decide) (by decide) hc
  have hvalue : (Nat.toDigits 10 n).foldl (fun n d => 10 * n + (d.toNat - 48)) 0 = n :=
    Nat.ofDigitChars_ten_toDigits
  rw [digitsValue?, hall, List.isEmpty_eq_false_iff.mpr hne, hvalue]
  rfl

/-- The text of a number is read as this number if it fits into a word. -/
theorem readDecimal?_decimalChars (n : Int) :
    readDecimal? (decimalChars n) = if fitsWord n then some n else none := by
  unfold decimalChars
  by_cases hn : n < 0
  · have habs : -(n.natAbs : Int) = n := by omega
    rw [if_pos hn]
    simp only [readDecimal?, digitsValue?_toDigits, Option.bind_eq_bind, Option.bind_some,
      Option.pure_def, Option.map_some, habs]
  · have habs : (n.natAbs : Int) = n := by omega
    rw [if_neg hn]
    unfold readDecimal?
    split
    next r hr => exact absurd (hr ▸ List.mem_cons_self) (notMem_toDigits (by decide) n.natAbs)
    next r hr => exact absurd (hr ▸ List.mem_cons_self) (notMem_toDigits (by decide) n.natAbs)
    next =>
      simp only [digitsValue?_toDigits, Option.bind_eq_bind, Option.bind_some, Option.pure_def,
        Option.map_some, habs]

end JavaReview
