import JavaReview.Proofs.Engine.Toggling
import JavaReview.Proofs.Text.Parts
import JavaReview.Waiver

/-!
Waivers as filters. A list of waivers takes out of the findings exactly those that one of its waivers
matches, whichever it is (`Waiver.getD_applyTo`), so lists of waivers compose like filters: one after the other
they accept what they accept together, and neither order nor repetition matters. In a review with counts
that agree with its findings, the counts fall by the findings that are taken out (`Review.waivesExactly`).
-/

namespace JavaReview

open Text

namespace Waiver

/-- A waiver that accepts a finding in a file. Names are compared by the folding of case and without the
white space around them, texts are searched in upper case. -/
structure Matches (w : Waiver) (filename : String) (f : Finding) : Prop where
  rule : (trim f.rule.toList).map fold = (trim w.rule.toList).map fold
  file : w.filename = "" ∨ (trim filename.toList).map fold = (trim w.filename.toList).map fold
  text : w.pattern = "" ∨ w.pattern.toList.map upper <:+: f.title.toList.map upper ∨
    w.pattern.toList.map upper <:+: f.description.toList.map upper

theorem matches_iff {w : Waiver} {filename : String} {f : Finding} :
    w.Matches filename f ↔ w.covers filename f = true := by
  simp only [covers, sameName, equalFold, holds, Bool.and_eq_true, Bool.or_eq_true, beq_iff_eq,
    contains_iff_isInfix, or_assoc, and_assoc]
  constructor
  · intro h
    exact ⟨h.rule, h.file, h.text⟩
  · rintro ⟨hrule, hfile, htext⟩
    exact ⟨hrule, hfile, htext⟩

instance (w : Waiver) (filename : String) (f : Finding) : Decidable (w.Matches filename f) :=
  decidable_of_iff _ matches_iff.symm

theorem anyCovers_iff_matches {ws : List Waiver} {filename : String} {f : Finding} :
    anyCovers ws filename f = true ↔ ∃ w ∈ ws, w.Matches filename f := by
  simp only [anyCovers, List.any_eq_true, matches_iff]

/-! ## What is kept -/

variable {filename : String}

theorem keep_eq_filter (ws : List Waiver) (filename : String) (fs : List Finding) :
    keep ws filename fs = fs.filter fun f => ∀ w ∈ ws, ¬ w.Matches filename f := by
  refine List.filter_congr fun f _ => ?_
  rw [Bool.eq_iff_iff, Bool.not_eq_true', ← Bool.not_eq_true, anyCovers_iff_matches,
    decide_eq_true_iff]
  simp only [not_exists, not_and]

theorem keep_append (ws ws' : List Waiver) (filename : String) (fs : List Finding) :
    keep (ws ++ ws') filename fs = keep ws' filename (keep ws filename fs) := by
  simp only [keep, anyCovers, List.any_append, List.filter_filter, Bool.not_or, Bool.and_comm]

theorem keep_congr {ws ws' : List Waiver} (h : ∀ w, w ∈ ws ↔ w ∈ ws') (filename : String)
    (fs : List Finding) : keep ws filename fs = keep ws' filename fs := by
  simp only [keep_eq_filter, h]

theorem length_keep_add_waivedCount (ws : List Waiver) (filename : String) (fs : List Finding) :
    (keep ws filename fs).length + waivedCount ws filename fs = fs.length := by
  rw [keep, waivedCount, ← List.countP_eq_length_filter, Nat.add_comm]
  simpa using (List.length_eq_countP_add_countP (anyCovers ws filename) (l := fs)).symm

theorem waivedCount_append (ws ws' : List Waiver) (filename : String) (fs : List Finding) :
    waivedCount (ws ++ ws') filename fs =
      waivedCount ws filename fs + waivedCount ws' filename (keep ws filename fs) := by
  have hboth := length_keep_add_waivedCount (ws ++ ws') filename fs
  have hfirst := length_keep_add_waivedCount ws filename fs
  have hsecond := length_keep_add_waivedCount ws' filename (keep ws filename fs)
  rw [keep_append] at hboth
  omega

theorem waivedCount_congr {ws ws' : List Waiver} (h : ∀ w, w ∈ ws ↔ w ∈ ws') (filename : String)
    (fs : List Finding) : waivedCount ws filename fs = waivedCount ws' filename fs := by
  have hkept := length_keep_add_waivedCount ws filename fs
  have hkept' := length_keep_add_waivedCount ws' filename fs
  rw [keep_congr h] at hkept
  omega

theorem tally_keep_add (ws : List Waiver) (filename : String) (fs : List Finding) :
    Counts.tally fs = Counts.tally (keep ws filename fs) +
      Counts.tally (fs.filter fun f => ∃ w ∈ ws, w.Matches filename f) := by
  have hperm := List.filter_append_perm (fun f => !anyCovers ws filename f) fs
  have hdropped : fs.filter (fun f => !!anyCovers ws filename f) =
      fs.filter fun f => ∃ w ∈ ws, w.Matches filename f := by
    refine List.filter_congr fun f _ => ?_
    rw [Bool.not_not, Bool.eq_iff_iff, anyCovers_iff_matches, decide_eq_true_iff]
  rw [hdropped] at hperm
  rw [← Counts.tally_append]
  exact Counts.tally_perm hperm.symm

theorem getD_applyTo (ws : List Waiver) (filename : String) (issues : Option (List Finding)) :
    (applyTo ws filename issues).getD [] = keep ws filename (issues.getD []) := by
  unfold applyTo
  split
  · next h =>
    rcases Bool.or_eq_true_iff.mp h with h | h
    · rw [List.isEmpty_iff.mp h]
      exact (List.filter_true _).symm
    · rw [List.isEmpty_iff.mp h]
      rfl
  · split
    · next h => exact h.symm
    · rfl

/-! ## Outcomes -/

/-- What waivers leave of a list of findings, and how many findings they accept. -/
def outcome (ws : List Waiver) (filename : String) (issues : Option (List Finding)) :
    Option (List Finding) × Nat :=
  (applyTo ws filename issues, waivedCount ws filename (issues.getD []))

/-- There is no list of findings if all of them were taken out. -/
def listOf? (fs : List Finding) : Option (List Finding) := if fs = [] then none else some fs

theorem listOf?_ne_some_nil (fs : List Finding) : listOf? fs ≠ some [] := by
  unfold listOf?
  split
  · exact Option.some_ne_none _ ∘ Eq.symm
  next hne => exact fun h => hne (Option.some.inj h)

theorem applyTo_of_ne {ws : List Waiver} (hws : ws ≠ []) {issues : Option (List Finding)}
    (hissues : issues.getD [] ≠ []) :
    applyTo ws filename issues = listOf? (keep ws filename (issues.getD [])) := by
  have hpassed : (ws.isEmpty || (issues.getD []).isEmpty) = false := by simp [hws, hissues]
  rw [applyTo, hpassed, listOf?]
  cases keep ws filename (issues.getD []) <;> rfl

theorem applyTo_nil (filename : String) (issues : Option (List Finding)) :
    applyTo [] filename issues = issues := rfl

theorem applyTo_of_getD_eq_nil (ws : List Waiver) {issues : Option (List Finding)}
    (h : issues.getD [] = []) : applyTo ws filename issues = issues := by
  simp [applyTo, h]

theorem applyTo_listOf? (ws : List Waiver) (fs : List Finding) :
    applyTo ws filename (listOf? fs) = listOf? (keep ws filename fs) := by
  by_cases hfs : fs = []
  · subst hfs
    exact applyTo_of_getD_eq_nil ws rfl
  · have hlist : listOf? fs = some fs := if_neg hfs
    by_cases hws : ws = []
    · rw [hws, applyTo_nil, keep]
      exact congrArg listOf? (List.filter_true fs).symm
    · rw [hlist]
      exact applyTo_of_ne hws hfs

theorem applyTo_append (ws ws' : List Waiver) (filename : String) (issues : Option (List Finding)) :
    applyTo (ws ++ ws') filename issues = applyTo ws' filename (applyTo ws filename issues) := by
  by_cases hissues : issues.getD [] = []
  · simp only [applyTo_of_getD_eq_nil _ hissues]
  · by_cases hws : ws = []
    · rw [hws, applyTo_nil, List.nil_append]
    · rw [applyTo_of_ne (List.append_ne_nil_of_left_ne_nil hws ws') hissues, keep_append,
        applyTo_of_ne hws hissues, applyTo_listOf?]

theorem applyTo_congr {ws ws' : List Waiver} (h : ∀ w, w ∈ ws ↔ w ∈ ws') (filename : String)
    (issues : Option (List Finding)) : applyTo ws filename issues = applyTo ws' filename issues := by
  have hempty : ws.isEmpty = ws'.isEmpty := by
    rw [Bool.eq_iff_iff, List.isEmpty_iff, List.isEmpty_iff, List.eq_nil_iff_forall_not_mem,
      List.eq_nil_iff_forall_not_mem]
    simp only [h]
  rw [applyTo, applyTo, hempty, keep_congr h]

/-- Waivers that work on a list of findings as filters do. -/
structure Filters (filename : String) (issues : Option (List Finding)) : Prop where
  kept_eq : ∀ ws, (outcome ws filename issues).1.getD [] =
    (issues.getD []).filter fun f => ∀ w ∈ ws, ¬ w.Matches filename f
  kept_add_waived : ∀ ws, ((outcome ws filename issues).1.getD []).length +
    (outcome ws filename issues).2 = (issues.getD []).length
  /-- Two lists of waivers accept together what they accept one after the other. -/
  outcome_append : ∀ ws ws', outcome (ws ++ ws') filename issues =
    ((outcome ws' filename (outcome ws filename issues).1).1,
      (outcome ws filename issues).2 + (outcome ws' filename (outcome ws filename issues).1).2)
  /-- Neither the order nor the repetition of waivers matters. -/
  outcome_congr : ∀ ws ws', (∀ w, w ∈ ws ↔ w ∈ ws') →
    outcome ws filename issues = outcome ws' filename issues
  outcome_again : ∀ ws, outcome ws filename (outcome ws filename issues).1 =
    ((outcome ws filename issues).1, 0)

theorem outcome_append_eq (ws ws' : List Waiver) (filename : String) (issues : Option (List Finding)) :
    outcome (ws ++ ws') filename issues =
      ((outcome ws' filename (outcome ws filename issues).1).1,
        (outcome ws filename issues).2 + (outcome ws' filename (outcome ws filename issues).1).2) := by
  simp only [outcome, applyTo_append, waivedCount_append, getD_applyTo]

theorem outcome_congr_mem {ws ws' : List Waiver} (h : ∀ w, w ∈ ws ↔ w ∈ ws') (filename : String)
    (issues : Option (List Finding)) : outcome ws filename issues = outcome ws' filename issues := by
  rw [outcome, outcome, applyTo_congr h, waivedCount_congr h]

theorem outcome_outcome (ws : List Waiver) (filename : String) (issues : Option (List Finding)) :
    outcome ws filename (outcome ws filename issues).1 = ((outcome ws filename issues).1, 0) := by
  -- repeating the list changes nothing, and is the same as applying it twice
  have hself : outcome (ws ++ ws) filename issues = outcome ws filename issues :=
    outcome_congr_mem (fun w => by simp) filename issues
  rw [outcome_append_eq, Prod.ext_iff] at hself
  obtain ⟨hkept, hwaived⟩ := hself
  exact Prod.ext hkept (Nat.add_eq_left.mp hwaived)

end Waiver

namespace Review

/-- A review from which waivers take what they match, in its findings and in its counts. -/
structure WaivesExactly (r : Review) (ws : List Waiver) : Prop where
  issues_eq : (r.applyWaivers ws).issues = (Waiver.outcome ws r.filename r.issues).1
  waived_eq : r.waived ws = (Waiver.outcome ws r.filename r.issues).2
  counts_eq : (r.applyWaivers ws).counts = .tally (r.applyWaivers ws).findings
  counts_add : r.counts = (r.applyWaivers ws).counts +
    .tally (r.findings.filter fun f => ∃ w ∈ ws, w.Matches r.filename f)

theorem issues_eq_listOf? {r : Review} (h : r.findings ≠ []) : r.issues = Waiver.listOf? r.findings := by
  rw [Waiver.listOf?, if_neg h, findings]
  cases hissues : r.issues with
  | none => exact absurd (congrArg (Option.getD · []) hissues) h
  | some fs => rfl

theorem issues_applyWaivers (r : Review) (ws : List Waiver) :
    (r.applyWaivers ws).issues = Waiver.applyTo ws r.filename r.issues := by
  unfold applyWaivers
  by_cases hcount : r.waived ws = 0
  · rw [if_pos hcount]
    by_cases hfindings : r.findings = []
    · exact (Waiver.applyTo_of_getD_eq_nil ws hfindings).symm
    · have hlength := Waiver.length_keep_add_waivedCount ws r.filename r.findings
      have hkeep : Waiver.keep ws r.filename r.findings = r.findings := by
        rw [← waived, hcount] at hlength
        exact List.filter_sublist.eq_of_length hlength
      rw [issues_eq_listOf? hfindings, Waiver.applyTo_listOf?, hkeep]
  · rw [if_neg hcount]
    rfl

theorem findings_applyWaivers (r : Review) (ws : List Waiver) :
    (r.applyWaivers ws).findings = Waiver.keep ws r.filename r.findings := by
  rw [findings, issues_applyWaivers, Waiver.getD_applyTo]
  rfl

theorem waivesExactly {r : Review} (h : r.counts = .tally r.findings) (ws : List Waiver) :
    r.WaivesExactly ws := by
  have hcounts : (r.applyWaivers ws).counts = .tally (r.applyWaivers ws).findings := by
    unfold applyWaivers
    split
    · exact h
    · rfl
  refine ⟨issues_applyWaivers r ws, rfl, hcounts, ?_⟩
  rw [hcounts, findings_applyWaivers, ← Waiver.tally_keep_add]
  exact h

end Review

namespace Waiver

/-- **Waivers filter findings**, and the counts of a review fall by what they take out. -/
theorem filter_findings (filename : String) (issues : Option (List Finding)) :
    Filters filename issues ∧ ∀ (r : Review) (ws : List Waiver), r.counts = .tally r.findings →
      r.WaivesExactly ws := by
  refine ⟨⟨?_, ?_, ?_, ?_, ?_⟩, fun r ws h => r.waivesExactly h ws⟩
  · intro ws
    rw [← keep_eq_filter, ← getD_applyTo]
    rfl
  · intro ws
    rw [outcome, getD_applyTo, length_keep_add_waivedCount]
  · intro ws ws'
    exact outcome_append_eq ws ws' filename issues
  · intro ws ws' h
    exact outcome_congr_mem h filename issues
  · intro ws
    exact outcome_outcome ws filename issues

/-- A review with a finding that a waiver matches by its description, in another case, and with one of the
same rule that it does not match. -/
def notedReview : Review :=
  { filename := "A.java" : Review }.withIssues (some
    [{ rule := "todo-comment", line := 1, description := "Fixme soon", category := .warning },
      { rule := "todo-comment", line := 2, title := "TODO", category := .warning }])

theorem filter_findings_notedReview :
    notedReview.counts = .tally notedReview.findings ∧
      notedReview.waived [{ rule := " TODO-Comment", filename := "a.JAVA ", pattern := "FIXME" }] = 1 ∧
      Filters "A.java" notedReview.issues ∧
      notedReview.WaivesExactly
        [{ rule := " TODO-Comment", filename := "a.JAVA ", pattern := "FIXME" }] :=
  have h := filter_findings "A.java" notedReview.issues
  ⟨rfl, by decide +kernel, h.1, h.2 _ _ rfl⟩

end Waiver

end JavaReview
