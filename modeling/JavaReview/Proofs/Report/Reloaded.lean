import JavaReview.Engine
import JavaReview.Proofs.Store.Additions
import JavaReview.Proofs.Store.Reloading
import JavaReview.Report

/-!
Reports of a review that was just saved and of the same review when it is loaded. Saving keeps the list of
findings of an analysis, also if it is empty, and loading gives no list if there are no findings; a report
in JSON writes the two differently (`Report.same_json_reloaded_iff`), and the other formats do not look at
the list itself. Main statement: the reports are the same but for those in JSON of a text without findings
(`Report.reloads_analyzed`).
-/

namespace JavaReview

/-! ## Objects that differ in their last field -/

namespace Json

theorem exists_writeIndentedFields_concat (depth : Nat) (fs : List (String × Json)) (k : String) :
    ∃ start, ∀ v, writeIndentedFields depth (fs ++ [(k, v)]) = start ++ writeIndented depth v := by
  induction fs with
  | nil => exact ⟨writeText k ++ [':', ' '], fun v => by simp [writeIndentedFields]⟩
  | cons f fs ih =>
    obtain ⟨start, hstart⟩ := ih
    refine ⟨writeText f.1 ++ ':' :: ' ' :: writeIndented depth f.2 ++ ',' :: newline depth ++ start,
      fun v => ?_⟩
    obtain ⟨g, rest, hrest⟩ : ∃ g rest, fs ++ [(k, v)] = g :: rest := by
      cases fs <;> simp
    rw [List.cons_append, hrest, writeIndentedFields, ← hrest, hstart]
    simp

theorem pretty_obj_concat_inj {fs : List (String × Json)} {k : String} {v w : Json} :
    (obj (fs ++ [(k, v)])).pretty = (obj (fs ++ [(k, w)])).pretty ↔
      v.writeIndented 1 = w.writeIndented 1 := by
  obtain ⟨start, hstart⟩ := exists_writeIndentedFields_concat 1 fs k
  have hwrite (v : Json) : (obj (fs ++ [(k, v)])).writeIndented 0 =
      '\x7b' :: newline 1 ++ (start ++ v.writeIndented 1) ++ newline 0 ++ ['\x7d'] := by
    rw [← hstart v]
    cases fs <;> rfl
  rw [pretty, pretty, String.ofList_inj, hwrite, hwrite]
  simp

end Json

namespace Report

/-! ## Reports of a review and of what is loaded -/

/-- Two reviews whose reports in a format are the same file. -/
structure Same (format : Format) (a b : Review) : Prop where
  fileName_eq : fileName format a = fileName format b
  render_eq : render format a = render format b

section Reloaded

variable (r : Review)

@[simp] theorem id_reloaded : r.reloaded.id = r.id := rfl

@[simp] theorem filename_reloaded : r.reloaded.filename = r.filename := rfl

@[simp] theorem counts_reloaded : r.reloaded.counts = r.counts := rfl

@[simp] theorem findings_reloaded : r.reloaded.findings = r.findings := by
  rw [Review.reloaded, Review.findings]
  cases h : r.findings with
  | nil => rfl
  | cons f fs => rfl

theorem fileName_reloaded (format : Format) : fileName format r.reloaded = fileName format r := rfl

theorem htmlSummary_reloaded : htmlSummary r.reloaded = htmlSummary r := by
  unfold htmlSummary
  rw [id_reloaded, filename_reloaded, counts_reloaded]

theorem renderHtml_reloaded : renderHtml r.reloaded = renderHtml r := by
  unfold renderHtml
  rw [htmlSummary_reloaded, findings_reloaded]

theorem renderText_reloaded : renderText r.reloaded = renderText r := by
  unfold renderText
  rw [id_reloaded, filename_reloaded, counts_reloaded, findings_reloaded]

theorem same_html_reloaded : Same .html r.reloaded r :=
  ⟨fileName_reloaded r .html, renderHtml_reloaded r⟩

theorem same_text_reloaded : Same .text r.reloaded r :=
  ⟨fileName_reloaded r .text, renderText_reloaded r⟩

end Reloaded

/-- The list of findings is the last field of a review in JSON. -/
theorem toJson_eq_concat (r : Review) : r.toJson = .obj
    (Json.fieldIf (r.id ≠ 0) "review_id" (.int r.id) ++ [("filename", .str r.filename)] ++
      Json.fieldIf (r.source ≠ "") "code" (.str r.source) ++ [("created_at", .str r.createdAt.text)] ++
      Json.fieldIf (r.version ≠ "") "ir_version" (.str r.version) ++ [("counts", r.counts.toJson)] ++
      [("issues", Json.ofList? Finding.toJson r.issues)]) := by
  simp [Review.toJson]

theorem same_json_reloaded_iff_pretty {r : Review} :
    Same .json r.reloaded r ↔ r.reloaded.toJson.pretty = r.toJson.pretty := by
  refine ⟨fun h => ?_, fun h => ⟨fileName_reloaded r .json, congrArg (· ++ "\n") h⟩⟩
  have htext := congrArg String.toList h.render_eq
  rw [render, render, String.toList_append, String.toList_append] at htext
  exact String.toList_inj.mp (List.append_cancel_right htext)

/-- In JSON the report of a review with a time in UTC is the same unless the review has a list of findings
that is empty. -/
theorem same_json_reloaded_iff {r : Review} (hutc : r.createdAt.toUtc = r.createdAt) :
    Same .json r.reloaded r ↔ r.issues ≠ some [] := by
  have htime : r.reloaded.createdAt = r.createdAt := hutc
  have hlist : r.reloaded.issues = if r.findings.isEmpty then none else some r.findings := rfl
  have hsource : r.reloaded.source = r.source := rfl
  have hversion : r.reloaded.version = r.version := rfl
  -- All fields but the last are the same.
  rw [same_json_reloaded_iff_pretty, toJson_eq_concat, toJson_eq_concat, id_reloaded, filename_reloaded,
    counts_reloaded, htime, hsource, hversion, Json.pretty_obj_concat_inj, hlist, Review.findings]
  cases r.issues with
  | none => simp [Json.ofList?]
  | some fs =>
    cases fs with
    | nil => simp [Json.ofList?, Json.writeIndented, Json.write]
    | cons f fs => simp [Json.ofList?]

end Report

/-! ## Lists of findings -/

theorem Engine.issues_of_analyze {e : Engine} {now : Instant} {cancelled : Bool}
    {source filename : String} {r : Review} (h : e.analyze now cancelled source filename = .ok r) :
    r.issues = some r.findings ∧ r.createdAt = .utc now := by
  unfold analyze at h
  split at h
  · cases h
  · obtain ⟨fs, -, rfl⟩ := map_eq_ok_iff.mp h
    exact ⟨rfl, rfl⟩

namespace Review

variable {r : Review} (ws : List Waiver)

theorem createdAt_applyWaivers : (r.applyWaivers ws).createdAt = r.createdAt := by
  unfold applyWaivers
  split <;> rfl

/-- Waivers leave an empty list only if it was empty before: if they accept all findings, no list is
left. -/
theorem issues_applyWaivers_eq_nil_iff (h : r.issues = some r.findings) :
    (r.applyWaivers ws).issues = some [] ↔ r.findings = [] := by
  rw [issues_applyWaivers]
  by_cases hnil : r.findings = []
  · rw [Waiver.applyTo_of_getD_eq_nil ws hnil, h, hnil]
    exact iff_of_true rfl rfl
  · rw [issues_eq_listOf? hnil, Waiver.applyTo_listOf?]
    exact iff_of_false (Waiver.listOf?_ne_some_nil _) hnil

end Review

namespace Store

theorem withIds_eq_nil_iff {first : Int} {fs : List Finding} : withIds first fs = [] ↔ fs = [] := by
  cases fs <;> simp [withIds]

theorem issues_savedReview_eq_nil_iff {s : Store} {now : Instant} {r : Review} :
    (s.savedReview now r).issues = some [] ↔ r.issues = some [] := by
  rw [savedReview, Option.map_eq_some_iff]
  cases r.issues with
  | none => simp
  | some fs => simp [withIds_eq_nil_iff]

/-- A review that was saved with a time in UTC. -/
theorem createdAt_savedReview (s : Store) (time : Instant) {now : Instant} {r : Review}
    (h : r.createdAt = .utc now) : ∃ t : Instant, (s.savedReview time r).createdAt = .utc t ∧
      (t = now ∨ now = .zero ∧ t = time) := by
  rw [(isSavedAs_savedReview s time r).createdAt_eq, h]
  split
  next hzero => exact ⟨time, rfl, .inr ⟨of_decide_eq_true hzero, rfl⟩⟩
  next => exact ⟨now, rfl, .inl rfl⟩

theorem Reachable.load_reloaded {s : Store} (hs : s.Reachable) {now : Instant} {r : Review}
    (hyear : (s.savedReview now r).createdAt.instant.HasFourDigitYear) (ops : List Operation)
    (hopen : ((s.withReview now r).performAll ops).isOpen = true) :
    ((s.withReview now r).performAll ops).load (s.savedReview now r).id =
      .ok (s.savedReview now r).reloaded := by
  obtain ⟨log, hlog⟩ := hs.exists_holds
  obtain ⟨more, hlater⟩ := (hlog.withReview now r).performAll ops
  have hload := hlater.load_eq (x := ⟨s.nextRow now r, s.nextFindings r⟩) (by simp) hopen
  rw [Review.reloaded, findings_savedReview, Timestamp.toUtc, ← StoredTime.load_ofInstant hyear]
  exact hload

end Store

namespace Report

/-- **Reports of stored reviews.** The review of an analysis is saved without what waivers accept. When it
is loaded later, its reports as a page and as text are those of the review that was saved, and so is its
report in JSON if and only if the analysis found something, waived or not. -/
theorem reloads_analyzed {s s' : Store} (hs : s.Reachable) {e : Engine} {now time : Instant}
    {cancelled : Bool} {source filename : String} {ws : List Waiver} {r saved : Review}
    (hr : e.analyze now cancelled source filename = .ok r)
    (hsave : s.save time (r.applyWaivers ws) = .ok (s', saved)) (hnow : now.HasFourDigitYear)
    (htime : now = .zero → time.HasFourDigitYear) (ops : List Store.Operation)
    (hopen : (s'.performAll ops).isOpen = true) :
    ∃ loaded, (s'.performAll ops).load saved.id = .ok loaded ∧
      Same .html loaded saved ∧ Same .text loaded saved ∧
      (Same .json loaded saved ↔ r.findings ≠ []) := by
  obtain ⟨-, -, hresult⟩ := Store.save_eq_ok_iff.mp hsave
  cases hresult
  obtain ⟨hissues, hcreated⟩ := Engine.issues_of_analyze hr
  have hcreated' : (r.applyWaivers ws).createdAt = .utc now :=
    (Review.createdAt_applyWaivers ws).trans hcreated
  obtain ⟨t, ht, hcases⟩ := Store.createdAt_savedReview s time hcreated'
  have hyear : t.HasFourDigitYear := by
    rcases hcases with rfl | ⟨hzero, rfl⟩
    · exact hnow
    · exact htime hzero
  refine ⟨_, hs.load_reloaded (by rw [ht]; exact hyear) ops hopen, same_html_reloaded _,
    same_text_reloaded _, ?_⟩
  rw [same_json_reloaded_iff (by rw [ht]; rfl), ne_eq, Store.issues_savedReview_eq_nil_iff,
    Review.issues_applyWaivers_eq_nil_iff ws hissues]

/-- The outcome of all built-in rules on a text. -/
def reviewOf (source : String) : Except AnalysisError Review :=
  ({ registry := .default } : Engine).analyze (.ofParts 1700000000 500000000) false source "A.java"

/-- The only finding is waived, and all reports are the same after the store was closed and reopened. -/
theorem reloads_analyzed_waived : ∃ r s' saved loaded, reviewOf "// TODO x\n" = .ok r ∧
    r.findings ≠ [] ∧
    Store.empty.save (.ofParts 1700000001 0) (r.applyWaivers [{ rule := "todo-comment" }]) =
      .ok (s', saved) ∧ saved.issues = none ∧
    (s'.performAll [.close, .reopen false false]).load saved.id = .ok loaded ∧
    ∀ format, Same format loaded saved := by
  obtain ⟨r, hr, hfound, hwaived⟩ : ∃ r, reviewOf "// TODO x\n" = .ok r ∧ r.findings ≠ [] ∧
      (r.applyWaivers [{ rule := "todo-comment" }]).issues = none :=
    ⟨_, rfl, by decide +kernel, by decide +kernel⟩
  have hsave : Store.empty.save (.ofParts 1700000001 0)
      (r.applyWaivers [{ rule := "todo-comment" }]) = .ok _ := rfl
  obtain ⟨loaded, hload, hhtml, htext, hjson⟩ := reloads_analyzed ⟨[], rfl⟩ hr hsave (by decide)
    (by decide) [.close, .reopen false false] rfl
  refine ⟨r, _, _, loaded, hr, hfound, hsave, ?_, hload, ?_⟩
  · exact Option.map_eq_none_iff.mpr hwaived
  · rintro (_ | _ | _)
    · exact hjson.mpr hfound
    · exact hhtml
    · exact htext

/-- On a text without findings the list of the saved review is empty, and the loaded one has none. -/
theorem not_same_json_of_clean : ∃ r s' saved loaded, reviewOf "class A \x7b\x7d\n" = .ok r ∧
    Store.empty.save (.ofParts 1700000001 0) (r.applyWaivers []) = .ok (s', saved) ∧
    s'.load saved.id = .ok loaded ∧ ¬ Same .json loaded saved := by
  obtain ⟨r, hr, hcreated, hnone⟩ : ∃ r, reviewOf "class A \x7b\x7d\n" = .ok r ∧
      (Store.empty.savedReview (.ofParts 1700000001 0) (r.applyWaivers [])).createdAt =
        .utc (.ofParts 1700000000 500000000) ∧
      (r.applyWaivers []).issues = some [] := ⟨_, rfl, by decide +kernel, by decide +kernel⟩
  have hempty : Store.empty.Reachable := ⟨[], rfl⟩
  have hyear : (Store.empty.savedReview (.ofParts 1700000001 0)
      (r.applyWaivers [])).createdAt.instant.HasFourDigitYear := by
    rw [hcreated]
    decide
  have hload := hempty.load_reloaded hyear [] rfl
  refine ⟨r, _, _, _, hr, Store.save_eq_ok_iff.mpr ⟨rfl, rfl, rfl⟩, hload, ?_⟩
  rw [same_json_reloaded_iff (by rw [hcreated]; rfl), ne_eq, Store.issues_savedReview_eq_nil_iff]
  exact fun h => h hnone

end Report

end JavaReview
