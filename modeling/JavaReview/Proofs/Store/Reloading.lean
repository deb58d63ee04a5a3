import JavaReview.Proofs.Store.Consistency
import JavaReview.Proofs.Time.RoundTrip

/-!
Saved reviews are loaded as they were saved, whatever else happens to the store in between
(`Store.load_after_save`). A saved review stays among the saved ones (`Store.Holds.performAll`), its
findings are those rows that name it, and its time is read back from the stored text.
-/

namespace JavaReview

theorem StoredTime.load_ofInstant {t : Instant} (h : t.HasFourDigitYear) :
    (StoredTime.ofInstant t).load = .utc t := by
  rw [load, ofInstant, Timestamp.ofText?_text_utc h, Option.getD_some]

namespace Finding

/-- The finding as it was before it was stored. -/
def withoutId (f : Finding) : Finding := { f with id := 0 }

end Finding

namespace Review

/-- A stored review as it is loaded: its time is written in UTC, and there is no list of findings if
there are none. -/
def reloaded (r : Review) : Review :=
  { r with
    createdAt := r.createdAt.toUtc
    issues := if r.findings.isEmpty then none else some r.findings }

/-- What saving makes of a review at a time, apart from the ids that it gives out. -/
structure IsSavedAs (r : Review) (now : Instant) (saved : Review) : Prop where
  filename_eq : saved.filename = filenameOr r.filename
  source_eq : saved.source = r.source
  version_eq : saved.version = if r.version = "" then formatVersion else r.version
  counts_eq : saved.counts = .tally r.findings
  findings_eq : saved.findings.map (·.withoutId) = r.findings.map (·.withoutId)
  createdAt_eq : saved.createdAt = if r.createdAt.isZero then .utc now else r.createdAt

end Review

namespace Store

theorem map_withoutId_withIds (first : Int) (fs : List Finding) :
    (withIds first fs).map (·.withoutId) = fs.map (·.withoutId) := by
  induction fs generalizing first with
  | nil => rfl
  | cons f fs ih => rw [withIds, List.map_cons, ih, List.map_cons]; rfl

theorem isSavedAs_savedReview (s : Store) (now : Instant) (r : Review) :
    r.IsSavedAs now (s.savedReview now r) where
  filename_eq := rfl
  source_eq := rfl
  version_eq := rfl
  counts_eq := rfl
  findings_eq := by rw [findings_savedReview, nextFindings, map_withoutId_withIds]
  createdAt_eq := rfl

theorem Holds.load_eq {s : Store} {log : List Saved} (h : s.Holds log) {x : Saved} (hx : x ∈ log)
    (hopen : s.isOpen = true) :
    s.load x.row.id = .ok
      { id := x.row.id
        filename := x.row.filename
        source := x.row.source
        createdAt := x.row.createdAt.load
        version := x.row.version
        counts := x.row.counts
        issues := if x.findings.isEmpty then none else some x.findings } := by
  refine load_eq_ok_iff.mpr ⟨hopen, x.row, h.reviewRow?_eq_some_iff.mpr ⟨h.row_mem hx, rfl⟩, ?_⟩
  rw [loaded, h.findingsOf_eq hx]

/-- **A saved review is loaded as saving left it**, after any later operations that leave the store
open: only an empty list of findings may turn into none, and the time is written in UTC. -/
theorem load_after_save (before after : List Operation) {s : Store} {now : Instant}
    {r saved : Review} (hsave : (Store.empty.performAll before).save now r = .ok (s, saved))
    (hyear : r.createdAt.instant.HasFourDigitYear)
    (hnow : r.createdAt.isZero = true → now.HasFourDigitYear)
    (hopen : (s.performAll after).isOpen = true) :
    (s.performAll after).load saved.id = .ok saved.reloaded ∧ r.IsSavedAs now saved := by
  obtain ⟨log, hlog⟩ := Holds.empty.performAll before
  obtain ⟨-, -, hresult⟩ := save_eq_ok_iff.mp hsave
  cases hresult
  generalize Store.empty.performAll before = s at *
  have hsaved := isSavedAs_savedReview s now r
  refine ⟨?_, hsaved⟩
  obtain ⟨more, hlater⟩ := (hlog.withReview now r).performAll after
  have hinstant : (s.savedReview now r).createdAt.instant.HasFourDigitYear := by
    rw [hsaved.createdAt_eq]
    split
    next hzero => exact hnow hzero
    next => exact hyear
  have hload := hlater.load_eq (x := ⟨s.nextRow now r, s.nextFindings r⟩) (by simp) hopen
  rw [Review.reloaded, findings_savedReview, Timestamp.toUtc, ← StoredTime.load_ofInstant hinstant]
  exact hload

/-- A review with a time of its own, wrong counts and a finding, between two other reviews. -/
theorem load_after_save_between :
    ∃ s saved, (Store.empty.performAll [.save ⟨1700000000, 0⟩ {}]).save ⟨1700000000, 0⟩
        { source := "class A {}", createdAt := ⟨⟨951782400, 120000000⟩, 7200⟩
          counts := { errors := 7 }, issues := some [{ rule := "long-line", line := 3 }] } =
          .ok (s, saved) ∧
      (s.performAll [.save ⟨1700000001, 0⟩ {}, .has 3, .close, .reopen false false]).load saved.id =
        .ok saved.reloaded ∧
      Review.IsSavedAs
        { source := "class A {}", createdAt := ⟨⟨951782400, 120000000⟩, 7200⟩
          counts := { errors := 7 }, issues := some [{ rule := "long-line", line := 3 }] }
        ⟨1700000000, 0⟩ saved :=
  ⟨_, _, rfl, load_after_save [.save ⟨1700000000, 0⟩ {}]
    [.save ⟨1700000001, 0⟩ {}, .has 3, .close, .reopen false false] rfl (by decide) (by decide) rfl⟩

end Store

end JavaReview
