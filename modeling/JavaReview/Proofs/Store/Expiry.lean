import JavaReview.Proofs.Time.TextOrder
import JavaReview.Store.Users
import JavaReview.Store.Waivers
import Mathlib.Tactic.ByContra

/-!
When stored waivers and sessions expire. Expiry is decided on stored texts, so it is on time unless
the expiry and the present are in one second and one of them is the other with digits of its
fraction dropped (`Store.expiresOnTime_iff`). In that case it is decided the wrong way around.
-/

namespace JavaReview

theorem StoredTime.isAfter_ofInstant_iff {e now : Instant} (he : e.HasFourDigitYear)
    (hnow : now.HasFourDigitYear) :
    (StoredTime.ofInstant e).isAfter now = true ↔
      (now.before e ∧ ¬ now.Truncates e) ∨ e.Truncates now := by
  rw [isAfter, decide_eq_true_iff]
  exact Timestamp.text_lt_text_iff hnow he

/-- Where neither drops digits of the other, the later text is that of the later instant. -/
theorem StoredTime.isAfter_iff_before {e now : Instant} (he : e.HasFourDigitYear)
    (hnow : now.HasFourDigitYear) :
    ((StoredTime.ofInstant e).isAfter now = true ↔ now.before e) ↔
      ¬ now.Truncates e ∧ ¬ e.Truncates now := by
  have hasymm : e.Truncates now → ¬ now.before e := by
    intro h hbefore
    have hbefore' := h.before
    unfold Instant.before at hbefore hbefore'
    omega
  rw [isAfter_ofInstant_iff he hnow]
  constructor
  · intro h
    refine ⟨fun htrunc => ?_, fun htrunc => ?_⟩
    · rcases h.mpr htrunc.before with ⟨-, hnot⟩ | htrunc'
      · exact hnot htrunc
      · exact hasymm htrunc' htrunc.before
    · exact hasymm htrunc (h.mp (.inr htrunc))
  · rintro ⟨hnow, he⟩
    simp only [hnow, he, not_false_eq_true, and_true, or_false]

namespace Store

/-! ## Waivers and sessions -/

/-- A waiver that is not revoked is listed among the active ones, in its place, as long as the text
of its expiry comes after that of the present. -/
theorem listWaivers_active {s : Store} (hopen : s.isOpen = true) (now : Instant)
    {older newer : List WaiverRow} {row : WaiverRow} (hrows : s.waivers = older ++ row :: newer)
    (hrow : row.revokedAt = none) :
    ∃ before after, { s with waivers := newer }.listWaivers now true = .ok before ∧
      { s with waivers := older }.listWaivers now true = .ok after ∧
      s.listWaivers now true =
        .ok (before ++ (if row.expiresAt.isAfter now then [row.toWaiver] else []) ++ after) := by
  refine ⟨_, _, if_pos hopen, if_pos hopen, ?_⟩
  rw [listWaivers, whenOpen, if_pos hopen, hrows]
  by_cases hafter : row.expiresAt.isAfter now = true
  · have hactive : row.isActive now = true := by simp [WaiverRow.isActive, hrow, hafter]
    simp [hactive, hafter]
  · have hactive : ¬ row.isActive now = true := by simp [WaiverRow.isActive, hafter]
    simp [hactive, hafter]

theorem session_eq {s : Store} (hopen : s.isOpen = true) (now : Instant) {token : String}
    {row : SessionRow} {user : UserRow} (hrow : s.sessionRow? token = some row)
    (huser : s.users.find? (·.id == row.user) = some user) :
    s.session now token =
      if row.expiresAt.isAfter now then .ok user.toUser else .error .noSession := by
  simp only [session, whenOpen, if_pos hopen, hrow, huser]

/-- What waivers and sessions of an expiry do at a time, if they count exactly until then. -/
structure ExpiresOnTime (e now : Instant) : Prop where
  /-- A waiver that is not revoked is listed, in its place, before its expiry and not from then on. -/
  waivers : ∀ (s : Store) (older newer : List WaiverRow) (row : WaiverRow), s.isOpen = true →
    s.waivers = older ++ row :: newer → row.revokedAt = none → row.expiresAt = .ofInstant e →
    ∃ before after, { s with waivers := newer }.listWaivers now true = .ok before ∧
      { s with waivers := older }.listWaivers now true = .ok after ∧
      s.listWaivers now true =
        .ok (before ++ (if now.before e then [row.toWaiver] else []) ++ after)
  /-- A session gives its user before its expiry and is not found from then on. -/
  sessions : ∀ (s : Store) (token : String) (row : SessionRow) (user : UserRow), s.isOpen = true →
    s.sessionRow? token = some row → s.users.find? (·.id == row.user) = some user →
    row.expiresAt = .ofInstant e →
    s.session now token = if now.before e then .ok user.toUser else .error .noSession

/-- A user to whom a session belongs. -/
def guest : UserRow := ⟨1, "guest", .foreign "", User.viewerRole, .ofInstant .zero⟩

/-- A store that holds one session, of a given expiry. -/
def oneSession (e : Instant) : Store :=
  { users := [guest], sessions := [⟨"token", 1, .ofInstant e⟩] }

theorem sessionRow?_oneSession (e : Instant) :
    (oneSession e).sessionRow? "token" = some ⟨"token", 1, .ofInstant e⟩ := by
  simp [oneSession, sessionRow?]

theorem find?_oneSession (e : Instant) :
    (oneSession e).users.find? (fun row => row.id == (1 : Int)) = some guest := by
  simp [oneSession, guest]

/-- Expiry is on time exactly if the expiry and the present are not one instant with more and with
fewer digits of its fraction. -/
theorem expiresOnTime_iff {e now : Instant} (he : e.HasFourDigitYear)
    (hnow : now.HasFourDigitYear) :
    ExpiresOnTime e now ↔ ¬ now.Truncates e ∧ ¬ e.Truncates now := by
  rw [← StoredTime.isAfter_iff_before he hnow]
  constructor
  · intro h
    have hrow := sessionRow?_oneSession e
    have huser := find?_oneSession e
    have hsession := h.sessions (oneSession e) "token" _ _ rfl hrow huser rfl
    rw [session_eq rfl now hrow huser] at hsession
    by_cases hbefore : now.before e
    · by_contra hne
      rw [if_pos hbefore, if_neg (by simpa [hbefore] using hne)] at hsession
      cases hsession
    · by_contra hne
      rw [if_neg hbefore, if_pos (by simpa [hbefore] using hne)] at hsession
      cases hsession
  · intro h
    refine ⟨?_, ?_⟩
    · intro s older newer row hopen hrows hrevoked hrow
      have hlist := listWaivers_active hopen now hrows hrevoked
      rw [hrow] at hlist
      simpa only [h] using hlist
    · intro s token row user hopen hrow huser hexpiry
      rw [session_eq hopen now hrow huser, hexpiry]
      simp only [h]

/-- At a whole second, what expires half a second later counts as expired. -/
theorem not_expiresOnTime_half_second :
    ¬ ExpiresOnTime ⟨1782907200, 500000000⟩ ⟨1782907200, 0⟩ := by
  rw [expiresOnTime_iff (by decide) (by decide)]
  decide

end Store

end JavaReview
