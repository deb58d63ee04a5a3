import JavaReview.Proofs.Time.TextOrder
import Mathlib.Tactic.Ring

/-!
Timestamps are read back from their texts. A day is found again from its date
(`Time.Date.toDays_ofDays`), a number from its digits (`Timestamp.number?_digits`) and a fraction of a
second from its digits without trailing zeros (`Timestamp.fraction_fractionText`), so that a timestamp
in a year of four digits is read back to the nanosecond, save for the seconds of its offset
(`Timestamp.ofText?_text`).
-/

namespace JavaReview

namespace Time

/-! ## Dates -/

/-- A day of a century comes before the year after the one that is found for it. -/
theorem century_lt {c r y : Nat} (hc : c ≤ 3) (hr : r < 36524)
    (hy : y = (r - (24 * c + r) / 1460) / 365) : r < 365 * (y + 1) + (y + 1) / 4 := by
  have hleap : (24 * c + r) / 1460 = r / 1461 ∨ (24 * c + r) / 1460 = r / 1461 + 1 := by omega
  have hr4 : r = 1461 * (r / 1461) + r % 1461 := by omega
  have hs : r % 1461 < 1461 := by omega
  generalize r / 1461 = q at *
  generalize r % 1461 = s at *
  rcases hleap with hleap | hleap
  · have hy4 : y = 4 * q + s / 365 := by omega
    omega
  · have hy4 : y = 4 * q + 3 := by omega
    omega

theorem lt_daysBefore_succ {day : Nat} (h : day < 146096) : day < daysBefore (yearOfEra day + 1) := by
  obtain ⟨c, r, hc, hr, rfl⟩ : ∃ c r, c ≤ 3 ∧ r < 36524 ∧ day = 36524 * c + r :=
    ⟨day / 36524, day % 36524, by omega, by omega, by omega⟩
  rw [yearOfEra_century hc hr]
  have hlt := century_lt hc hr rfl
  obtain ⟨hy, -, -⟩ := century_bounds hc hr rfl
  generalize (r - (24 * c + r) / 1460) / 365 = y at *
  unfold daysBefore
  omega

namespace Date

theorem toDays_ofMarchDay (y : Int) {day : Nat} (h : day ≤ 365) :
    (ofMarchDay y day).toDays =
      y / 400 * daysPerEra + (daysBefore (y % 400).toNat + day : Nat) - epochShift := by
  simp only [ofMarchDay, toDays]
  by_cases hmonth : (5 * day + 2) / 153 < 10
  · have hlate : ¬ (5 * day + 2) / 153 + 3 ≤ 2 := by omega
    simp only [if_pos hmonth, if_neg hlate, if_pos (Nat.not_le.mp hlate), Nat.add_sub_cancel]
    congr 3
    omega
  · have hearly : (5 * day + 2) / 153 - 9 ≤ 2 := by omega
    simp only [if_neg hmonth, if_pos hearly, if_neg (Nat.not_lt.mpr hearly), Int.add_sub_cancel,
      Nat.sub_add_cancel (show 9 ≤ (5 * day + 2) / 153 by omega)]
    congr 3
    omega

/-- Only a leap year has a 366th day, counted from March, and that is its 29th of February. -/
theorem day_ofMarchDay_le {y : Int} {day : Nat} (h : day ≤ 365)
    (hleap : day = 365 → isLeapYear (y + 1) = true) :
    (ofMarchDay y day).day ≤ daysIn (ofMarchDay y day).year (ofMarchDay y day).month := by
  have hday : (ofMarchDay y day).day = day - (153 * ((5 * day + 2) / 153) + 2) / 5 + 1 := rfl
  have hmonth : (ofMarchDay y day).month =
      if (5 * day + 2) / 153 < 10 then (5 * day + 2) / 153 + 3 else (5 * day + 2) / 153 - 9 := rfl
  have hyear : (ofMarchDay y day).year = if (ofMarchDay y day).month ≤ 2 then y + 1 else y := rfl
  generalize (ofMarchDay y day).month = month at *
  unfold daysIn
  by_cases hfeb : month = 2
  · rw [if_pos hfeb, hyear, if_pos (Nat.le_of_eq hfeb)]
    split
    next => split at hmonth <;> omega
    next hnot =>
      have hlast : day ≠ 365 := fun hlast => hnot (hleap hlast)
      split at hmonth <;> omega
  · rw [if_neg hfeb]
    split <;> split at hmonth <;> omega

theorem toDays_ofDays (days : Int) : (ofDays days).toDays = days := by
  obtain ⟨era, doe, hdoe, hdays, hdate⟩ := ofDays_eq days
  obtain ⟨hyear, hlo, hhi⟩ := daysBefore_yearOfEra hdoe
  rw [hdate, toDays_ofMarchDay _ (by omega)]
  have hera : ((yearOfEra doe : Int) + era * 400) / 400 = era := by omega
  have hyoe : (((yearOfEra doe : Int) + era * 400) % 400).toNat = yearOfEra doe := by omega
  rw [hera, hyoe, Nat.add_sub_cancel' hlo, hdays]
  rfl

theorem day_ofDays_le (days : Int) :
    (ofDays days).day ≤ daysIn (ofDays days).year (ofDays days).month := by
  obtain ⟨era, doe, hdoe, -, hdate⟩ := ofDays_eq days
  obtain ⟨hyear, hlo, hhi⟩ := daysBefore_yearOfEra hdoe
  rw [hdate]
  refine day_ofMarchDay_le (by omega) fun hlast => ?_
  by_cases hera : doe = 146096
  · subst hera
    have hyoe : yearOfEra 146096 = 399 := by decide
    simp only [isLeapYear, hyoe, Bool.and_eq_true, Bool.or_eq_true, beq_iff_eq, bne_iff_ne]
    omega
  · have hlt : doe < daysBefore (yearOfEra doe + 1) := lt_daysBefore_succ (by omega)
    unfold daysBefore at hlt hlast hlo
    have hdiv : yearOfEra doe / 100 ≤ (yearOfEra doe + 1) / 100 := Nat.div_le_div_right (by omega)
    have hfour : (yearOfEra doe + 1) % 4 = 0 := by omega
    have hcentury : (yearOfEra doe + 1) % 100 ≠ 0 := by omega
    simp only [isLeapYear, Bool.and_eq_true, Bool.or_eq_true, beq_iff_eq, bne_iff_ne]
    omega

end Date

end Time

namespace Timestamp

/-! ## Numbers -/

theorem digit?_digitChar {d : Nat} (hd : d < 10) : digit? (Nat.digitChar d) = some d := by
  have hall : ∀ d : Fin 10, digit? (Nat.digitChar d) = some (d : Nat) := by decide
  exact hall ⟨d, hd⟩

/-- The digits of a number are read one part after the other. -/
theorem number?_add (m n acc : Nat) (s : List Char) :
    number? (m + n) acc s = (number? m acc s).bind fun p => number? n p.1 p.2 := by
  induction m generalizing acc s with
  | zero => rw [Nat.zero_add, number?, Option.bind_some]
  | succ m ih =>
    rw [Nat.succ_add]
    cases s with
    | nil => rfl
    | cons c s =>
      cases hc : digit? c with
      | none => simp [number?, hc]
      | some d => simp [number?, hc, ih]

theorem number?_digits (w n acc : Nat) (rest : List Char) :
    number? w acc (digits w n ++ rest) = some (acc * 10 ^ w + n % 10 ^ w, rest) := by
  induction w generalizing n rest with
  | zero => simp [number?, digits, Nat.mod_one]
  | succ w ih =>
    have hlast : digit? (Nat.digitChar (n % 10)) = some (n % 10) :=
      digit?_digitChar (Nat.mod_lt n (by decide))
    have hvalue : 10 * (acc * 10 ^ w + n / 10 % 10 ^ w) + n % 10 =
        acc * 10 ^ (w + 1) + n % 10 ^ (w + 1) := by
      rw [Nat.pow_succ, Nat.mul_comm (10 ^ w) 10, Nat.mod_mul]
      ring
    rw [digits, List.append_assoc, number?_add, ih, Option.bind_some, ← hvalue]
    simp [number?, hlast]

theorem number?_digits_of_lt {w n : Nat} (h : n < 10 ^ w) (rest : List Char) :
    number? w 0 (digits w n ++ rest) = some (n, rest) := by
  rw [number?_digits, Nat.zero_mul, Nat.zero_add, Nat.mod_eq_of_lt h]

theorem shortNumber?_digits (n : Nat) (rest : List Char) :
    shortNumber? (digits 2 n ++ rest) = some (n % 100, rest) := by
  have htens : digit? (Nat.digitChar (n / 10 % 10)) = some (n / 10 % 10) :=
    digit?_digitChar (Nat.mod_lt _ (by decide))
  have hones : digit? (Nat.digitChar (n % 10)) = some (n % 10) :=
    digit?_digitChar (Nat.mod_lt _ (by decide))
  have hvalue : 10 * (n / 10 % 10) + n % 10 = n % 100 := by omega
  simp [digits, shortNumber?, htens, hones, hvalue]

/-! ## Fractions -/

theorem foldl_digits (w n acc : Nat) :
    (digits w n).foldl (fun a d => 10 * a + (d.toNat - 48)) acc = acc * 10 ^ w + n % 10 ^ w := by
  induction w generalizing n with
  | zero => simp [digits, Nat.mod_one]
  | succ w ih =>
    have hall : ∀ d : Fin 10, (Nat.digitChar d).toNat - 48 = (d : Nat) := by decide
    have hlast : (Nat.digitChar (n % 10)).toNat - 48 = n % 10 :=
      hall ⟨n % 10, Nat.mod_lt n (by decide)⟩
    rw [digits, List.foldl_append, ih, List.foldl_cons, List.foldl_nil, hlast, Nat.pow_succ,
      Nat.mul_comm (10 ^ w) 10, Nat.mod_mul]
    ring

theorem isDigit_of_mem_digits {w n : Nat} {c : Char} (h : c ∈ digits w n) : c.isDigit = true := by
  have hall : ∀ d : Fin 10, (Nat.digitChar d).isDigit = true := by decide
  induction w generalizing n with
  | zero => cases h
  | succ w ih =>
    rw [digits, List.mem_append, List.mem_singleton] at h
    rcases h with h | rfl
    · exact ih h
    · exact hall ⟨n % 10, Nat.mod_lt n (by decide)⟩

/-- What is stripped off the end of digits is zeros. -/
theorem eq_stripZeros_append (ds : List Char) :
    ds = stripZeros ds ++ List.replicate (ds.length - (stripZeros ds).length) '0' := by
  have hsplit : ds = stripZeros ds ++ (ds.reverse.takeWhile (· == '0')).reverse := by
    rw [stripZeros, ← List.reverse_append, List.takeWhile_append_dropWhile, List.reverse_reverse]
  have hzeros : (ds.reverse.takeWhile (· == '0')).reverse =
      List.replicate (ds.length - (stripZeros ds).length) '0' := by
    refine List.eq_replicate_iff.mpr ⟨?_, fun c hc => ?_⟩
    · have hlength := congrArg List.length hsplit
      rw [List.length_append] at hlength
      omega
    · simpa using List.all_eq_true.mp List.all_takeWhile c (List.mem_reverse.mp hc)
  rwa [hzeros] at hsplit

theorem nanosOf_stripZeros {n : Nat} (hn : n < 10 ^ 9) : nanosOf (stripZeros (digits 9 n)) = n := by
  have hsplit := eq_stripZeros_append (digits 9 n)
  rw [length_digits] at hsplit
  have hlength : (stripZeros (digits 9 n)).length ≤ 9 := by
    have hsum := congrArg List.length hsplit
    rw [List.length_append, length_digits] at hsum
    omega
  have htake : (stripZeros (digits 9 n) ++ List.replicate 9 '0').take 9 = digits 9 n := by
    rw [List.take_append, List.take_of_length_le hlength, List.take_replicate,
      Nat.min_eq_left (Nat.sub_le _ _), ← hsplit]
  rw [nanosOf, htake, foldl_digits, Nat.zero_mul, Nat.zero_add, Nat.mod_eq_of_lt hn]

theorem fraction_fractionText {n : Nat} (hn : n < 10 ^ 9) {c : Char} (hc : c.isDigit = false)
    (hpoint : c ≠ '.') (hcomma : c ≠ ',') (rest : List Char) :
    fraction (fractionText n ++ c :: rest) = (n, c :: rest) := by
  have hnanos := nanosOf_stripZeros hn
  have hdigits : ∀ c ∈ stripZeros (digits 9 n), c.isDigit = true := by
    intro c hc
    apply isDigit_of_mem_digits (w := 9) (n := n)
    rw [eq_stripZeros_append (digits 9 n)]
    exact List.mem_append_left _ hc
  unfold fractionText
  cases hstrip : stripZeros (digits 9 n) with
  | nil =>
    rw [hstrip] at hnanos
    rw [← hnanos]
    cases rest <;> simp [fraction, hpoint, hcomma, nanosOf]
  | cons d ds =>
    rw [hstrip] at hnanos hdigits
    have hd : d.isDigit = true := hdigits d List.mem_cons_self
    have htake : ((d :: ds) ++ c :: rest).takeWhile Char.isDigit = d :: ds := by
      rw [List.takeWhile_append_of_pos hdigits, List.takeWhile_cons_of_neg (by simp [hc]),
        List.append_nil]
    have hdrop : ((d :: ds) ++ c :: rest).dropWhile Char.isDigit = c :: rest := by
      rw [List.dropWhile_append_of_pos hdigits, List.dropWhile_cons_of_neg (by simp [hc])]
    simp only [List.cons_append] at htake hdrop
    simp only [List.cons_append, fraction, hd, htake, hdrop, hnanos]
    rfl

/-! ## Timestamps -/

theorem mark?_cons_self (c : Char) (rest : List Char) : mark? c (c :: rest) = some rest := if_pos rfl

theorem yearText_of_fourDigits {y : Int} (h : 0 ≤ y ∧ y ≤ 9999) :
    yearText y = digits 4 y.toNat := by
  simp only [yearText, if_pos (show y.natAbs < 10000 by omega), if_neg (show ¬ y < 0 by omega)]
  congr 1
  omega

open Time

/-- What a text is read as, from what its fields are read as. -/
theorem parse?_of_fields {s r₁ r₂ r₃ r₄ r₅ r₆ r₇ : List Char}
    {year month day hour minute second nanos : Nat} {offset : Int}
    (hyear : number? 4 0 s = some (year, '-' :: r₁))
    (hmonth : number? 2 0 r₁ = some (month, '-' :: r₂))
    (hday : number? 2 0 r₂ = some (day, 'T' :: r₃))
    (hhour : shortNumber? r₃ = some (hour, ':' :: r₄))
    (hminute : number? 2 0 r₄ = some (minute, ':' :: r₅))
    (hsecond : number? 2 0 r₅ = some (second, r₆))
    (hfraction : fraction r₆ = (nanos, r₇)) (hoffset : offset? r₇ = some offset)
    (hmonths : 1 ≤ month ∧ month ≤ 12) (hdays : 1 ≤ day ∧ day ≤ daysIn year month)
    (hclock : hour < 24 ∧ minute < 60 ∧ second < 60) :
    parse? s = some ⟨.ofParts (Date.toDays ⟨year, month, day⟩ * 86400 +
      (hour * 3600 + minute * 60 + second : Nat) - offset) nanos, offset⟩ := by
  have hsound : ¬ (month < 1 || month > 12 || day < 1 || day > daysIn year month || hour ≥ 24 ||
      minute ≥ 60 || second ≥ 60) = true := by
    simp
    omega
  unfold parse?
  refine Option.bind_eq_some_iff.mpr ⟨_, hyear, ?_⟩
  refine Option.bind_eq_some_iff.mpr ⟨_, mark?_cons_self _ _, ?_⟩
  refine Option.bind_eq_some_iff.mpr ⟨_, hmonth, ?_⟩
  refine Option.bind_eq_some_iff.mpr ⟨_, mark?_cons_self _ _, ?_⟩
  refine Option.bind_eq_some_iff.mpr ⟨_, hday, ?_⟩
  refine Option.bind_eq_some_iff.mpr ⟨_, mark?_cons_self _ _, ?_⟩
  refine Option.bind_eq_some_iff.mpr ⟨_, hhour, ?_⟩
  refine Option.bind_eq_some_iff.mpr ⟨_, mark?_cons_self _ _, ?_⟩
  refine Option.bind_eq_some_iff.mpr ⟨_, hminute, ?_⟩
  refine Option.bind_eq_some_iff.mpr ⟨_, mark?_cons_self _ _, ?_⟩
  refine Option.bind_eq_some_iff.mpr ⟨_, hsecond, ?_⟩
  simp only [hfraction]
  exact Option.bind_eq_some_iff.mpr ⟨_, hoffset, if_neg hsound⟩

/-- A timestamp that can be written: in a year of four digits, with an offset of less than a day. -/
structure IsWritable (t : Timestamp) : Prop where
  year : 0 ≤ t.date.year ∧ t.date.year ≤ 9999
  lt_day : t.offset.natAbs < 86400

/-- What the text of a timestamp says: the same clock, at an offset of whole minutes. -/
def written (t : Timestamp) : Timestamp :=
  ⟨t.instant.addSeconds (t.offset - t.offset.tdiv 60 * 60), t.offset.tdiv 60 * 60⟩

theorem tdiv_sixty (offset : Int) :
    offset.tdiv 60 = if offset ≤ 0 then -(offset.natAbs / 60 : Int) else offset.natAbs / 60 := by
  obtain ⟨n, rfl | rfl⟩ := offset.eq_nat_or_neg
  · rw [Int.tdiv_eq_ediv_of_nonneg (by omega)]
    omega
  · rw [Int.neg_tdiv, Int.tdiv_eq_ediv_of_nonneg (by omega)]
    omega

theorem written_eq_self_iff {t : Timestamp} : t.written = t ↔ t.offset % 60 = 0 := by
  obtain ⟨⟨seconds, nanos⟩, offset⟩ := t
  simp only [written, Instant.addSeconds, Timestamp.mk.injEq, Instant.mk.injEq, and_true, tdiv_sixty]
  omega

theorem isWritable_utc {t : Instant} (h : t.HasFourDigitYear) : (utc t).IsWritable :=
  ⟨h, show (0 : Int).natAbs < 86400 by decide⟩

/-- An offset is read from its text without its seconds. -/
theorem offset?_offsetText {offset : Int} (h : offset.natAbs < 86400) :
    offset? (offsetText offset) = some (offset.tdiv 60 * 60) := by
  by_cases hzero : offset = 0
  · subst hzero
    rfl
  · have hhours : number? 2 0 (digits 2 (offset.natAbs / 60 / 60) ++ ':' ::
        digits 2 (offset.natAbs / 60 % 60)) =
          some (offset.natAbs / 60 / 60, ':' :: digits 2 (offset.natAbs / 60 % 60)) :=
      number?_digits_of_lt (by omega) _
    have hrest : number? 2 0 (digits 2 (offset.natAbs / 60 % 60)) =
        some (offset.natAbs / 60 % 60, []) := by
      rw [← List.append_nil (digits 2 _)]
      exact number?_digits_of_lt (by omega) []
    have hlimits : ¬ offset.natAbs / 60 / 60 > 24 ∧ ¬ offset.natAbs / 60 % 60 > 60 := by omega
    rw [offsetText, if_neg hzero, tdiv_sixty]
    generalize hsize : offset.natAbs = size at *
    by_cases hneg : offset ≤ -60
    · simp [if_pos hneg, offset?, hhours, mark?, hrest, hlimits]
      omega
    · simp [if_neg hneg, offset?, hhours, mark?, hrest, hlimits]
      omega

/-- The text of an offset does not go on with a fraction. -/
theorem exists_offsetText_cons (offset : Int) : ∃ c rest, offsetText offset = c :: rest ∧
    c.isDigit = false ∧ c ≠ '.' ∧ c ≠ ',' := by
  unfold offsetText
  by_cases hzero : offset = 0
  · exact ⟨'Z', [], if_pos hzero, by decide⟩
  · by_cases hneg : offset ≤ -60
    · exact ⟨'-', _, by rw [if_neg hzero, if_pos hneg]; rfl, by decide⟩
    · exact ⟨'+', _, by rw [if_neg hzero, if_neg hneg]; rfl, by decide⟩

theorem parse?_chars {t : Timestamp} (h : t.IsWritable) : parse? t.chars = some t.written := by
  obtain ⟨hmonth, hmonth', hday, hday'⟩ := Date.ofDays_bounds (t.localSeconds / 86400)
  have hdays := Date.toDays_ofDays (t.localSeconds / 86400)
  have hlength := Date.day_ofDays_le (t.localSeconds / 86400)
  have hsecond : (t.localSeconds % 86400).toNat < 86400 := by omega
  have hfourDigits := h.year
  have hoffset := offset?_offsetText h.lt_day
  obtain ⟨c, rest, htext, hc, hpoint, hcomma⟩ := exists_offsetText_cons t.offset
  have hlocal : t.localSeconds = t.instant.seconds + t.offset := rfl
  rw [htext] at hoffset
  rw [chars, htext, dateText, clockText, yearText_of_fourDigits hfourDigits]
  unfold date at *
  unfold secondOfDay
  generalize hd : Date.ofDays (t.localSeconds / 86400) = d at *
  generalize hs : (t.localSeconds % 86400).toNat = second at *
  have hyear : (d.year.toNat : Int) = d.year := Int.toNat_of_nonneg hfourDigits.1
  have hclock : second / 3600 % 100 * 3600 + second / 60 % 60 * 60 + second % 60 = second := by omega
  have hwall : t.localSeconds / 86400 * 86400 + (second : Int) - t.offset.tdiv 60 * 60 =
      t.instant.seconds + (t.offset - t.offset.tdiv 60 * 60) := by
    omega
  have hnanos : Fin.ofNat 1000000000 t.instant.nanos = t.instant.nanos :=
    Fin.ext (Nat.mod_eq_of_lt t.instant.nanos.isLt)
  simp only [List.append_assoc, List.cons_append]
  rw [parse?_of_fields (number?_digits_of_lt (by omega) _) (number?_digits_of_lt (by omega) _)
    (number?_digits_of_lt (by omega) _) (shortNumber?_digits _ _)
    (number?_digits_of_lt (by omega) _) (number?_digits_of_lt (by omega) _)
    (fraction_fractionText t.instant.nanos.isLt hc hpoint hcomma rest) hoffset ⟨hmonth, hmonth'⟩
    ⟨hday, hyear ▸ hlength⟩ (by omega), hyear, hclock, hdays, hwall, Instant.ofParts, hnanos]
  rfl

/-- A timestamp is read back from its text, save for the seconds of its offset. -/
theorem ofText?_text {t : Timestamp} (h : t.IsWritable) : ofText? t.text = some t.written := by
  rw [ofText?, text, String.toList_ofList, parse?_chars h]

theorem ofText?_text_utc {t : Instant} (h : t.HasFourDigitYear) :
    ofText? (utc t).text = some (utc t) := by
  rw [ofText?_text (isWritable_utc h), written_eq_self_iff.mpr rfl]

end Timestamp

end JavaReview
