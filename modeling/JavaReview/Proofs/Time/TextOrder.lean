import JavaReview.Proofs.Time.Calendar
import JavaReview.Proofs.Time.Digits

/-!
The order of timestamps' texts. In years of four digits the texts of two instants compare as the
instants do down to the second. Within a second the fractions decide, and their trailing zeros are
not written: a text whose fraction goes on where the other's ends comes first, because `Z` is after
every digit (`Timestamp.text_lt_text_iff`).
-/

namespace JavaReview

/-- Whether the instant is in the years 0 to 9999. -/
def Instant.HasFourDigitYear (t : Instant) : Prop :=
  0 ≤ (Timestamp.utc t).date.year ∧ (Timestamp.utc t).date.year ≤ 9999

instance (t : Instant) : Decidable t.HasFourDigitYear :=
  inferInstanceAs (Decidable (_ ∧ _))

/-- Whether an instant is another one with the last digits of its fraction of a second dropped,
some of which are not zero. -/
def Instant.Truncates (a b : Instant) : Prop :=
  a.seconds = b.seconds ∧ a.nanos ≠ b.nanos ∧
    ∃ j ≤ 9, (a.nanos : Nat) = b.nanos / 10 ^ j * 10 ^ j

instance (a b : Instant) : Decidable (a.Truncates b) :=
  inferInstanceAs (Decidable (_ ∧ _ ∧ ∃ j ≤ 9, _))

theorem Instant.Truncates.before {a b : Instant} (h : a.Truncates b) : a.before b := by
  obtain ⟨hsec, hne, j, -, hcut⟩ := h
  have hle := Nat.div_mul_le_self (b.nanos : Nat) (10 ^ j)
  refine .inr ⟨hsec, Fin.lt_def.mpr ?_⟩
  have hne : (a.nanos : Nat) ≠ b.nanos := fun h => hne (Fin.ext h)
  omega

namespace Timestamp

/-! ## Fractions of a second -/

/-- Ending with `Z` puts a text after its own continuations. -/
theorem append_Z_lt_iff {x y : List Char} (hx : ∀ c ∈ x, c < 'Z') (hy : ∀ c ∈ y, c < 'Z') :
    x ++ ['Z'] < y ++ ['Z'] ↔ (y <+: x ∧ y ≠ x) ∨ (¬ x <+: y ∧ ¬ y <+: x ∧ x < y) := by
  by_cases hyx : y <+: x
  · obtain ⟨r, rfl⟩ := hyx
    rw [List.append_assoc, append_lt_append_iff rfl]
    cases r with
    | nil => simp
    | cons c r =>
      have hc : c < 'Z' := hx c (by simp)
      refine iff_of_true (.inr ⟨rfl, List.cons_lt_cons_iff.mpr (.inl hc)⟩) (.inl ⟨?_, by simp⟩)
      exact List.prefix_append _ _
  · by_cases hxy : x <+: y
    · obtain ⟨r, rfl⟩ := hxy
      rw [List.append_assoc, append_lt_append_iff rfl]
      cases r with
      | nil => simp at hyx
      | cons c r =>
        have hc : c < 'Z' := hy c (by simp)
        refine iff_of_false ?_ (by simp [hyx])
        rintro (h | ⟨-, h⟩)
        · exact List.lt_irrefl _ h
        · rcases List.cons_lt_cons_iff.mp h with h | ⟨rfl, -⟩
          · exact Std.lt_irrefl (Std.lt_trans h hc)
          · exact Std.lt_irrefl hc
    · rw [append_lt_append_iff_of_incomparable _ _ hxy hyx]
      simp [hxy, hyx]

theorem lt_Z_of_mem_fractionText {n : Nat} {c : Char} (h : c ∈ fractionText n) : c < 'Z' := by
  obtain ⟨rest, hrest⟩ := digits_eq_stripZeros_append 9 n
  have hdigit : ∀ c ∈ stripZeros (digits 9 n), c < 'Z' := by
    intro c hc
    have hmem : c ∈ digits 9 n := by
      rw [hrest]
      exact List.mem_append_left rest hc
    exact lt_Z_of_mem_digits hmem
  unfold fractionText at h
  split at h
  · cases h
  · rcases List.mem_cons.mp h with rfl | h
    · decide
    · exact hdigit c h

theorem fractionText_prefix_iff (m n : Nat) :
    fractionText m <+: fractionText n ↔ stripZeros (digits 9 m) <+: stripZeros (digits 9 n) := by
  unfold fractionText
  cases stripZeros (digits 9 m) <;> cases stripZeros (digits 9 n) <;> simp

theorem fractionText_lt_iff (m n : Nat) :
    fractionText m < fractionText n ↔ stripZeros (digits 9 m) < stripZeros (digits 9 n) := by
  unfold fractionText
  cases stripZeros (digits 9 m) <;> cases stripZeros (digits 9 n) <;> simp [List.cons_lt_cons_iff]

theorem fractionText_inj {m n : Nat} (hm : m < 10 ^ 9) (hn : n < 10 ^ 9)
    (h : fractionText m = fractionText n) : m = n := by
  have hmn := (fractionText_prefix_iff m n).mp ⟨[], by rw [List.append_nil, h]⟩
  have hnm := (fractionText_prefix_iff n m).mp ⟨[], by rw [List.append_nil, h]⟩
  exact stripZeros_inj hm hn (hmn.eq_of_length_le hnm.length_le)

/-- Fractions compare as texts the way they do as numbers, unless one is the other with its last
digits dropped: then they compare the other way. -/
theorem fractionText_append_Z_lt_iff {m n : Nat} (hm : m < 10 ^ 9) (hn : n < 10 ^ 9) :
    fractionText m ++ ['Z'] < fractionText n ++ ['Z'] ↔
      (n ≠ m ∧ ∃ j ≤ 9, n = m / 10 ^ j * 10 ^ j) ∨
        (m < n ∧ ¬ ∃ j ≤ 9, m = n / 10 ^ j * 10 ^ j) := by
  have hne : fractionText n ≠ fractionText m ↔ n ≠ m :=
    not_congr ⟨fractionText_inj hn hm, fun h => by rw [h]⟩
  rw [append_Z_lt_iff (fun _ => lt_Z_of_mem_fractionText) fun _ => lt_Z_of_mem_fractionText, hne,
    fractionText_prefix_iff, fractionText_prefix_iff, fractionText_lt_iff]
  by_cases hnm : stripZeros (digits 9 n) <+: stripZeros (digits 9 m)
  · have hcut := (stripZeros_prefix_iff hn hm).mp hnm
    have hnlt : ¬ m < n := by
      obtain ⟨j, -, hj⟩ := hcut
      have hle := Nat.div_mul_le_self m (10 ^ j)
      omega
    simp only [hnm, hcut, hnlt, not_true_eq_false, and_true, true_and, false_and, and_false, or_false]
  · by_cases hmn : stripZeros (digits 9 m) <+: stripZeros (digits 9 n)
    · rw [← stripZeros_prefix_iff hn hm, ← stripZeros_prefix_iff hm hn]
      simp only [hnm, hmn, not_true_eq_false, false_and, and_false]
    · rw [← stripZeros_prefix_iff hn hm, ← stripZeros_prefix_iff hm hn, stripZeros_lt_iff hm hn hmn hnm]
      simp only [hnm, hmn, not_false_eq_true, true_and, and_true, false_and, and_false, false_or]

/-! ## Dates and times of day -/

open Time

theorem dateText_append_lt_iff {d e : Date} {c c' : List Char} (hd : 0 ≤ d.year ∧ d.year ≤ 9999)
    (he : 0 ≤ e.year ∧ e.year ≤ 9999) (hdmonth : d.month ≤ 12) (hemonth : e.month ≤ 12)
    (hdday : d.day ≤ 31) (heday : e.day ≤ 31) :
    dateText d ++ c < dateText e ++ c' ↔ d.before e ∨ d = e ∧ c < c' := by
  have hyear : ∀ y : Int, 0 ≤ y ∧ y ≤ 9999 → yearText y = digits 4 y.natAbs := by
    intro y hy
    simp only [yearText, if_pos (show y.natAbs < 10000 by omega), if_neg (show ¬ y < 0 by omega)]
  have heq : d = e ↔ d.year = e.year ∧ d.month = e.month ∧ d.day = e.day := by
    cases d
    cases e
    simp
  simp only [dateText, hyear _ hd, hyear _ he, List.append_assoc, List.cons_append]
  rw [digits_append_lt_iff (by omega) (by omega), List.cons_lt_cons_iff,
    digits_append_lt_iff (by omega) (by omega), List.cons_lt_cons_iff,
    digits_append_lt_iff (by omega) (by omega), heq]
  by_cases hc : c < c'
  · simp only [hc, Std.lt_irrefl, false_or, true_and, and_true, Date.before]
    omega
  · simp only [hc, Std.lt_irrefl, false_or, true_and, and_false, or_false, Date.before]
    omega

theorem clockText_append_lt_iff {s t : Nat} {c c' : List Char} (hs : s < 86400) (ht : t < 86400) :
    clockText s ++ c < clockText t ++ c' ↔ s < t ∨ s = t ∧ c < c' := by
  simp only [clockText, List.append_assoc, List.cons_append]
  rw [digits_append_lt_iff (by omega) (by omega), List.cons_lt_cons_iff,
    digits_append_lt_iff (by omega) (by omega), List.cons_lt_cons_iff,
    digits_append_lt_iff (by omega) (by omega)]
  by_cases hc : c < c'
  · simp only [hc, Std.lt_irrefl, false_or, true_and, and_true]
    omega
  · simp only [hc, Std.lt_irrefl, false_or, true_and, and_false, or_false]
    omega

/-! ## Texts -/

theorem date_utc (t : Instant) : (utc t).date = .ofDays (t.seconds / 86400) := by
  simp only [date, localSeconds, utc, Int.add_zero]

theorem secondOfDay_utc (t : Instant) : (utc t).secondOfDay = (t.seconds % 86400).toNat := by
  simp only [secondOfDay, localSeconds, utc, Int.add_zero]

theorem chars_utc (t : Instant) :
    (utc t).chars = dateText (utc t).date ++ 'T' ::
      (clockText (utc t).secondOfDay ++ (fractionText t.nanos ++ ['Z'])) := by
  simp [chars, offsetText, utc]

/-- Days and seconds of the day compare as seconds do, and anything after them only decides within
a second. -/
theorem seconds_lex_iff (s t : Int) (f : Prop) :
    (s / 86400 < t / 86400 ∨ s / 86400 = t / 86400 ∧
        ((s % 86400).toNat < (t % 86400).toNat ∨ (s % 86400).toNat = (t % 86400).toNat ∧ f)) ↔
      s < t ∨ s = t ∧ f := by
  by_cases hf : f
  · simp only [hf, and_true]
    omega
  · simp only [hf, and_false, or_false]
    omega

theorem chars_lt_iff {a b : Instant} (ha : a.HasFourDigitYear) (hb : b.HasFourDigitYear) :
    (utc a).chars < (utc b).chars ↔ a.seconds < b.seconds ∨ a.seconds = b.seconds ∧
      fractionText a.nanos ++ ['Z'] < fractionText b.nanos ++ ['Z'] := by
  obtain ⟨-, hamonth, -, haday⟩ := Date.ofDays_bounds ((utc a).localSeconds / 86400)
  obtain ⟨-, hbmonth, -, hbday⟩ := Date.ofDays_bounds ((utc b).localSeconds / 86400)
  have heq : (utc a).date = (utc b).date ↔ a.seconds / 86400 = b.seconds / 86400 := by
    rw [date_utc, date_utc]
    exact ⟨Date.ofDays_inj, fun h => by rw [h]⟩
  rw [chars_utc, chars_utc, dateText_append_lt_iff ha hb hamonth hbmonth haday hbday, heq, date_utc,
    date_utc, Date.ofDays_before_iff, List.cons_lt_cons_iff, secondOfDay_utc, secondOfDay_utc,
    clockText_append_lt_iff (by omega) (by omega), ← seconds_lex_iff a.seconds b.seconds]
  simp only [Std.lt_irrefl, false_or, true_and]

/-- The text of one instant comes before that of another if the instant is earlier, with the order
of the two turned around where one is the other with digits of its fraction dropped. -/
theorem text_lt_text_iff {a b : Instant} (ha : a.HasFourDigitYear) (hb : b.HasFourDigitYear) :
    (utc a).text < (utc b).text ↔ (a.before b ∧ ¬ a.Truncates b) ∨ b.Truncates a := by
  rw [text, text, String.lt_iff, String.toList_ofList, String.toList_ofList, chars_lt_iff ha hb,
    fractionText_append_Z_lt_iff a.nanos.isLt b.nanos.isLt]
  simp only [Instant.before, Instant.Truncates, Fin.lt_def, Fin.ext_iff, ne_eq]
  rcases Int.lt_trichotomy a.seconds b.seconds with hlt | heq | hgt
  · simp [hlt, Int.ne_of_lt hlt]
  · simp only [heq, Int.lt_irrefl, true_and, false_or]
    rw [or_comm]
    refine or_congr_left (and_congr_right fun hlt => ?_)
    simp [Nat.ne_of_lt hlt]
  · simp [Int.not_lt.mpr (Int.le_of_lt hgt), Int.ne_of_lt hgt, (Int.ne_of_lt hgt).symm]

end Timestamp

end JavaReview
