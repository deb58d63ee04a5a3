import JavaReview.Time.Calendar

/-!
The calendar keeps the order of days: a later day has a later date (`Time.Date.ofDays_before_iff`). Only
the bounds of `Time.daysBefore_yearOfEra` on the year of a day are used for it.
-/

namespace JavaReview.Time

/-! ## Years of an era -/

/-- The year of a day within a century of the era. -/
theorem yearOfEra_century {c r : Nat} (hc : c ≤ 3) (hr : r < 36524) :
    yearOfEra (36524 * c + r) = 100 * c + (r - (24 * c + r) / 1460) / 365 := by
  unfold yearOfEra
  have h1 : (36524 * c + r) / 1460 = 25 * c + (24 * c + r) / 1460 := by omega
  have h2 : (36524 * c + r) / 36524 = c := by omega
  have h3 : (36524 * c + r) / 146096 = 0 := by omega
  omega

/-- A day of a century lies in the year that is found for it. -/
theorem century_bounds {c r y : Nat} (hc : c ≤ 3) (hr : r < 36524)
    (hy : y = (r - (24 * c + r) / 1460) / 365) :
    y ≤ 99 ∧ 365 * y + y / 4 ≤ r ∧ r ≤ 365 * y + y / 4 + 365 := by
  have hleap : (24 * c + r) / 1460 = r / 1461 ∨ (24 * c + r) / 1460 = r / 1461 + 1 := by omega
  have hr4 : r = 1461 * (r / 1461) + r % 1461 := by omega
  have hs : r % 1461 < 1461 := by omega
  generalize r / 1461 = q at *
  generalize r % 1461 = s at *
  rcases hleap with hleap | hleap
  · have hy4 : y = 4 * q + s / 365 := by omega
    omega
  · -- the quotient runs ahead only in the last year of four
    have hy4 : y = 4 * q + 3 := by omega
    omega

theorem daysBefore_yearOfEra {day : Nat} (h : day < 146097) :
    yearOfEra day < 400 ∧ daysBefore (yearOfEra day) ≤ day ∧
      day ≤ daysBefore (yearOfEra day) + 365 := by
  by_cases hlast : day = 146096
  · subst hlast
    decide
  · obtain ⟨c, r, hc, hr, rfl⟩ : ∃ c r, c ≤ 3 ∧ r < 36524 ∧ day = 36524 * c + r :=
      ⟨day / 36524, day % 36524, by omega, by omega, by omega⟩
    rw [yearOfEra_century hc hr]
    obtain ⟨hy, hlo, hhi⟩ := century_bounds hc hr rfl
    generalize (r - (24 * c + r) / 1460) / 365 = y at *
    have h4 : (100 * c + y) / 4 = 25 * c + y / 4 := by omega
    have h100 : (100 * c + y) / 100 = c := by omega
    unfold daysBefore
    omega

/-- A year has 365 days at least. -/
theorem daysBefore_add (y k : Nat) : daysBefore y + 365 * k ≤ daysBefore (y + k) := by
  induction k with
  | zero => exact Nat.le_refl _
  | succ k ih =>
    have hyear : daysBefore (y + k) + 365 ≤ daysBefore (y + k + 1) := by
      unfold daysBefore
      omega
    calc daysBefore y + 365 * (k + 1) = daysBefore y + 365 * k + 365 := by
          rw [Nat.mul_succ, Nat.add_assoc]
      _ ≤ daysBefore (y + k) + 365 := Nat.add_le_add_right ih _
      _ ≤ daysBefore (y + k + 1) := hyear

theorem yearOfEra_mono {a b : Nat} (hab : a ≤ b) (hb : b < 146097) :
    yearOfEra a ≤ yearOfEra b := by
  obtain ⟨-, hlo, -⟩ := daysBefore_yearOfEra (Nat.lt_of_le_of_lt hab hb)
  obtain ⟨-, -, hhi⟩ := daysBefore_yearOfEra hb
  rcases Nat.lt_or_ge (yearOfEra b) (yearOfEra a) with hlt | hle
  · -- a later year would leave no day between the two
    have hyears := daysBefore_add (yearOfEra b) (yearOfEra a - yearOfEra b)
    rw [Nat.add_sub_cancel' (Nat.le_of_lt hlt)] at hyears
    have heq : a = b := by omega
    subst heq
    exact absurd hlt (Nat.lt_irrefl _)
  · exact hle

/-! ## Dates -/

namespace Date

/-- The order of dates. -/
def before (a b : Date) : Prop :=
  a.year < b.year ∨ a.year = b.year ∧
    (a.month < b.month ∨ a.month = b.month ∧ a.day < b.day)

theorem before_irrefl (a : Date) : ¬ a.before a := by
  unfold before
  omega

theorem before_asymm {a b : Date} (h : a.before b) : ¬ b.before a := by
  unfold before at *
  omega

theorem ofMarchDay_bounds {y : Int} {day : Nat} (h : day ≤ 365) :
    1 ≤ (ofMarchDay y day).month ∧ (ofMarchDay y day).month ≤ 12 ∧
      1 ≤ (ofMarchDay y day).day ∧ (ofMarchDay y day).day ≤ 31 := by
  simp only [ofMarchDay]
  split <;> omega

/-- Later years come later, whatever the days. -/
theorem ofMarchDay_before_of_year_lt {y y' : Int} {day day' : Nat} (hy : y < y')
    (h : day ≤ 365) : (ofMarchDay y day).before (ofMarchDay y' day') := by
  simp only [before, ofMarchDay]
  split <;> split <;> split <;> split <;> omega

theorem ofMarchDay_before_of_day_lt {y : Int} {day day' : Nat} (h : day < day')
    (h' : day' ≤ 365) : (ofMarchDay y day).before (ofMarchDay y day') := by
  simp only [before, ofMarchDay]
  split <;> split <;> split <;> split <;> omega

theorem ofDays_eq (days : Int) :
    ∃ (era : Int) (doe : Nat), doe < 146097 ∧ days = era * 146097 + doe - 719468 ∧
      ofDays days = ofMarchDay (yearOfEra doe + era * 400) (doe - daysBefore (yearOfEra doe)) := by
  refine ⟨(days + epochShift) / daysPerEra, ((days + epochShift) % daysPerEra).toNat, ?_, ?_, rfl⟩
  · unfold daysPerEra
    omega
  · unfold daysPerEra epochShift
    omega

theorem ofDays_bounds (days : Int) : 1 ≤ (ofDays days).month ∧ (ofDays days).month ≤ 12 ∧
    1 ≤ (ofDays days).day ∧ (ofDays days).day ≤ 31 := by
  obtain ⟨era, doe, hdoe, -, hdate⟩ := ofDays_eq days
  obtain ⟨-, -, hhi⟩ := daysBefore_yearOfEra hdoe
  rw [hdate]
  exact ofMarchDay_bounds (by omega)

theorem ofDays_before {d e : Int} (h : d < e) : (ofDays d).before (ofDays e) := by
  obtain ⟨era, doe, hdoe, hd, hdate⟩ := ofDays_eq d
  obtain ⟨era', doe', hdoe', he, hdate'⟩ := ofDays_eq e
  obtain ⟨hy, hlo, hhi⟩ := daysBefore_yearOfEra hdoe
  obtain ⟨hy', hlo', hhi'⟩ := daysBefore_yearOfEra hdoe'
  rw [hdate, hdate']
  by_cases hera : era < era'
  · exact ofMarchDay_before_of_year_lt (by omega) (by omega)
  · have hera : era = era' := by omega
    subst hera
    have hle := yearOfEra_mono (a := doe) (b := doe') (by omega) hdoe'
    rcases Nat.lt_or_ge (yearOfEra doe) (yearOfEra doe') with hlt | hge
    · exact ofMarchDay_before_of_year_lt (by omega) (by omega)
    · have hsame : yearOfEra doe = yearOfEra doe' := by omega
      rw [hsame] at hlo ⊢
      exact ofMarchDay_before_of_day_lt (by omega) (by omega)

theorem ofDays_before_iff {d e : Int} : (ofDays d).before (ofDays e) ↔ d < e := by
  constructor
  · intro h
    rcases Int.lt_trichotomy d e with hlt | rfl | hlt
    · exact hlt
    · exact absurd h (before_irrefl _)
    · exact absurd h (before_asymm (ofDays_before hlt))
  · exact ofDays_before

theorem ofDays_inj {d e : Int} (h : ofDays d = ofDays e) : d = e := by
  rcases Int.lt_trichotomy d e with hlt | heq | hlt
  · exact absurd (h ▸ ofDays_before hlt) (before_irrefl _)
  · exact heq
  · exact absurd (h ▸ ofDays_before hlt) (before_irrefl _)

end Date

end JavaReview.Time
