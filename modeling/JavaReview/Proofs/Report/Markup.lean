import JavaReview.Proofs.Text.Decimal
import JavaReview.Report
import Mathlib.Logic.Basic

/-!
No text of a review becomes markup in its page. The marks of a page are its angle brackets and quotes:
they open and close tags and attribute values. Texts are written without marks
(`Report.marks_escape`), so the marks of a page depend only on which findings name a rule, and they
tell which ones do (`Report.marks_renderHtml_eq_iff`).
-/

namespace JavaReview.Report

/-- The characters that open and close tags and attribute values. -/
def isMark (c : Char) : Bool := c = '<' || c = '>' || c = '\'' || c = '"'

/-- The marks in a page, in order. -/
def marks (s : String) : List Char := s.toList.filter isMark

theorem marks_append (s t : String) : marks (s ++ t) = marks s ++ marks t := by
  rw [marks, String.toList_append, List.filter_append, marks, marks]

theorem marks_join (l : List String) : marks (String.join l) = l.flatMap marks := by
  induction l with
  | nil => rfl
  | cons s l ih => rw [String.join_cons, marks_append, ih, List.flatMap_cons]

theorem isMark_of_mem_escapeChar {c d : Char} (h : d ∈ Html.escapeChar c) : isMark d = false := by
  by_cases hmark : c ∈ ['&', '\'', '<', '>', '"']
  · have hall : (['&', '\'', '<', '>', '"'].all fun c =>
        (Html.escapeChar c).all fun d => !isMark d) = true := by decide
    have hd := List.all_eq_true.mp (List.all_eq_true.mp hall c hmark) d h
    simpa using hd
  · unfold Html.escapeChar at h
    simp only [List.mem_cons, List.not_mem_nil, or_false, not_or] at hmark
    obtain ⟨hamp, hquote, hlt, hgt, hdouble⟩ := hmark
    simp only [hamp, hquote, hlt, hgt, hdouble, if_false, List.mem_singleton] at h
    simp [h, isMark, hquote, hlt, hgt, hdouble]

/-- A text stands in a page without marks. -/
theorem marks_escape (s : String) : marks (Html.escape s) = [] := by
  rw [marks, Html.escape, String.toList_ofList, List.filter_eq_nil_iff]
  intro d hd
  obtain ⟨c, -, hc⟩ := List.mem_flatMap.mp hd
  simp [isMark_of_mem_escapeChar hc]

theorem marks_decimal (n : Int) : marks (decimal n) = [] := by
  rw [marks, decimal, String.toList_ofList, List.filter_eq_nil_iff]
  intro d hd hmark
  simp only [isMark, Bool.or_eq_true, decide_eq_true_iff] at hmark
  obtain ((rfl | rfl) | rfl) | rfl := hmark <;>
    exact notMem_decimalChars (by decide) (by decide) n hd

/-- The marks of a tag without attributes. -/
def plainTag : List Char := ['<', '>']

/-- The marks of a tag with one attribute. -/
def attributeTag : List Char := ['<', '\'', '\'', '>']

theorem marks_htmlRule (rule : String) :
    marks (htmlRule rule) = if rule = "" then [] else attributeTag ++ plainTag := by
  -- unfolded as a term here and below, since the texts are long
  delta htmlRule
  by_cases hrule : rule = ""
  · rw [if_pos hrule, if_pos hrule]
    rfl
  · rw [if_neg hrule, if_neg hrule, marks_append, marks_append, marks_escape, List.append_nil]
    decide +kernel

/-- The marks of a finding, by whether it names no rule. -/
def findingMarks (bare : Bool) : List Char :=
  attributeTag ++ (List.replicate 8 plainTag).flatten ++ attributeTag ++
    (if bare then [] else attributeTag ++ plainTag) ++ (plainTag ++ plainTag)

theorem marks_htmlFinding (f : Finding) :
    marks (htmlFinding f) = findingMarks (decide (f.rule = "")) := by
  delta htmlFinding
  simp only [marks_append, marks_escape, marks_decimal, List.append_nil, marks_htmlRule, findingMarks,
    decide_eq_true_iff]
  refine congrArg₂ (· ++ ·) (congrArg₂ (· ++ ·) ?_ rfl) ?_
  · decide +kernel
  · decide +kernel

/-- The marks of the findings of a page, by which of them name no rule. -/
def findingsMarks (bare : List Bool) : List Char :=
  (if bare.isEmpty then attributeTag ++ plainTag else []) ++ bare.flatMap findingMarks

theorem marks_htmlFindings (fs : List Finding) : marks (htmlFindings fs) =
    marks "<h2>Issues</h2>" ++ findingsMarks (fs.map fun f => decide (f.rule = "")) := by
  have hnone : marks (if fs.isEmpty then "<p class='meta'>No issues found.</p>" else "") =
      if fs.isEmpty then attributeTag ++ plainTag else [] := by
    cases fs.isEmpty <;> decide +kernel
  have hfindings : marks (String.join (fs.map htmlFinding)) =
      (fs.map fun f => decide (f.rule = "")).flatMap findingMarks := by
    rw [marks_join, List.flatMap_map, List.flatMap_map]
    simp only [marks_htmlFinding]
  delta htmlFindings
  rw [marks_append, marks_append, hnone, hfindings, findingsMarks, List.append_assoc,
    List.isEmpty_map]

theorem marks_htmlSummary (r : Review) : marks (htmlSummary r) = marks (htmlSummary {}) := by
  delta htmlSummary
  simp only [marks_append, marks_escape, marks_decimal]

/-- The marks of a page are those of its frame, around those of its findings. -/
theorem marks_renderHtml (r : Review) : marks (renderHtml r) =
    marks htmlHead ++ marks (htmlSummary {}) ++ marks "<h2>Issues</h2>" ++
      (findingsMarks (r.findings.map fun f => decide (f.rule = "")) ++ (plainTag ++ plainTag)) := by
  have hclosing : marks "</body></html>" = plainTag ++ plainTag := by decide +kernel
  delta renderHtml
  simp only [marks_append, marks_htmlSummary, marks_htmlFindings, hclosing, List.append_assoc]

/-- The marks of a finding tell whether it names a rule, and where they end. -/
theorem findingMarks_append_inj {b c : Bool} {s t : List Char}
    (h : findingMarks b ++ s = findingMarks c ++ t) : b = c ∧ s = t := by
  cases b <;> cases c <;> simp_all [findingMarks, attributeTag, plainTag]

theorem flatMap_findingMarks_inj {bs cs : List Bool}
    (h : bs.flatMap findingMarks ++ (plainTag ++ plainTag) =
      cs.flatMap findingMarks ++ (plainTag ++ plainTag)) : bs = cs := by
  -- the page goes on with a finding if the next tag has an attribute
  have hends (b : Bool) (s : List Char) : findingMarks b ++ s ≠ plainTag ++ plainTag := by
    simp [findingMarks, attributeTag, plainTag]
  induction bs generalizing cs with
  | nil =>
    cases cs with
    | nil => rfl
    | cons c cs =>
      rw [List.flatMap_cons, List.append_assoc] at h
      exact absurd h.symm (hends c _)
  | cons b bs ih =>
    cases cs with
    | nil =>
      rw [List.flatMap_cons, List.append_assoc] at h
      exact absurd h (hends b _)
    | cons c cs =>
      simp only [List.flatMap_cons, List.append_assoc] at h
      obtain ⟨rfl, hrest⟩ := findingMarks_append_inj h
      rw [ih hrest]

theorem findingsMarks_inj {bs cs : List Bool}
    (h : findingsMarks bs ++ (plainTag ++ plainTag) = findingsMarks cs ++ (plainTag ++ plainTag)) :
    bs = cs := by
  -- the line that there are no findings is shorter than any finding
  have hnone (b : Bool) (bs : List Bool) :
      findingsMarks (b :: bs) ++ (plainTag ++ plainTag) ≠ findingsMarks [] ++ (plainTag ++ plainTag) := by
    simp [findingsMarks, findingMarks, attributeTag, plainTag]
  cases bs with
  | nil =>
    cases cs with
    | nil => rfl
    | cons c cs => exact absurd h.symm (hnone c cs)
  | cons b bs =>
    cases cs with
    | nil => exact absurd h (hnone b bs)
    | cons c cs => exact flatMap_findingMarks_inj h

/-- Two pages have the same marks exactly if the same of their findings name a rule. -/
theorem marks_renderHtml_eq_iff {a b : Review} : marks (renderHtml a) = marks (renderHtml b) ↔
    a.findings.map (fun f => decide (f.rule = "")) = b.findings.map fun f => decide (f.rule = "") := by
  rw [marks_renderHtml, marks_renderHtml, List.append_cancel_left_eq]
  exact ⟨findingsMarks_inj, fun h => by rw [h]⟩

end JavaReview.Report
