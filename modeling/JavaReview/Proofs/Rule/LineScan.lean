import JavaReview.Proofs.Rule.Lines
import JavaReview.Proofs.Rule.LoopBlocks

/-!
Scans that go down the lines of a text with a state. A line is reported by the state that the lines above
it leave and by the line itself (`mem_scanLines_iff`), so what a scan reports is known once its state
before each line is. What a rule reports, and that it reports nothing else, is said by position and issue
(`ReportsExactly`).
-/

namespace JavaReview.Rule

/-- A rule that reports an issue at a position exactly if the two fit, from top to bottom and at most once
on a line. -/
def ReportsExactly (rule : Rule) (ctx : Context) (fits : Nat → Issue → Prop) : Prop :=
  ∃ fs, rule.apply ctx = .ok fs ∧ (fs.Pairwise fun f g => f.line < g.line) ∧
    ∀ f, f ∈ fs ↔ ∃ i issue, fits i issue ∧ f = (issue.atLine (i + 1)).stamp rule.name

theorem reportsExactly_map {α : Type} {name summary : String} {eval : List Line → List α}
    {issue : α → Issue} {line : α → Nat} {ctx : Context} {fits : Nat → Issue → Prop}
    (hline : ((eval ctx.lines).map line).Sublist (List.range' 1 ctx.lines.length))
    (hfits : ∀ i t, fits i t ↔ ∃ a ∈ eval ctx.lines, line a = i + 1 ∧ issue a = t) :
    (ofLines name summary fun ls => (eval ls).map fun a => (issue a).atLine (line a)).ReportsExactly
      ctx fits := by
  refine ⟨_, rfl, ?_, ?_⟩
  · have hascending := (List.pairwise_lt_range' 1).sublist hline
    rw [List.pairwise_map] at hascending
    rw [List.pairwise_map, List.pairwise_map]
    apply hascending.imp
    intro a b hlt
    simpa using hlt
  · intro f
    rw [List.mem_map]
    constructor
    · rintro ⟨g, hg, rfl⟩
      obtain ⟨a, ha, rfl⟩ := List.mem_map.mp hg
      have hpos := List.mem_range'_1.mp (hline.subset (List.mem_map_of_mem ha))
      have hsucc : line a = line a - 1 + 1 := by omega
      refine ⟨line a - 1, issue a, (hfits _ _).mpr ⟨a, ha, hsucc, rfl⟩, ?_⟩
      rw [← hsucc]
    · rintro ⟨i, t, hfit, rfl⟩
      obtain ⟨a, ha, hi, rfl⟩ := (hfits i t).mp hfit
      refine ⟨_, List.mem_map_of_mem ha, ?_⟩
      rw [hi]

/-- A scan that reports one issue. -/
theorem reportsExactly_scan {name summary : String} {eval : List Line → List Nat} {issue : Issue}
    {ctx : Context} {fits : Nat → Prop}
    (hline : (eval ctx.lines).Sublist (List.range' 1 ctx.lines.length))
    (hfits : ∀ i, fits i ↔ i + 1 ∈ eval ctx.lines) :
    (ofLines name summary fun ls => (eval ls).map fun n => issue.atLine n).ReportsExactly ctx
      fun i t => fits i ∧ t = issue := by
  apply reportsExactly_map
  · rwa [List.map_id']
  · intro i t
    rw [hfits]
    constructor
    · rintro ⟨hmem, rfl⟩
      exact ⟨i + 1, hmem, rfl, rfl⟩
    · rintro ⟨n, hmem, rfl, rfl⟩
      exact ⟨hmem, rfl⟩

/-! ## Lines by position -/

def lineAt (ls : List Line) (i : Nat) : Line := ls[i]?.getD []

def trimmedAt (ls : List Line) (i : Nat) : Line := Text.trim (lineAt ls i)

def deltaAt (ls : List Line) (i : Nat) : Int := (lineAt ls i).braceDelta

theorem lineAt_of_lt {ls : List Line} {i : Nat} (h : i < ls.length) : lineAt ls i = ls[i] := getD_of_lt h

theorem lineAt_of_length_le {ls : List Line} {i : Nat} (h : ls.length ≤ i) : lineAt ls i = [] := by
  rw [lineAt, List.getElem?_eq_none h]
  rfl

/-- What no empty line has is had by the lines of the text only. -/
theorem lt_length_of_lineAt {p : Line → Prop} (hnil : ¬ p []) {ls : List Line} {i : Nat}
    (h : p (lineAt ls i)) : i < ls.length := by
  refine Nat.lt_of_not_le fun hle => ?_
  rw [lineAt_of_length_le hle] at h
  exact hnil h

theorem mem_zipIdx_iff_lineAt {ls : List Line} {l : Line} {i : Nat} :
    (l, i) ∈ ls.zipIdx ↔ i < ls.length ∧ lineAt ls i = l := by
  rw [List.mem_zipIdx_iff_getElem?, List.getElem?_eq_some_iff]
  constructor
  · rintro ⟨hi, hl⟩
    exact ⟨hi, (lineAt_of_lt hi).trans hl⟩
  · rintro ⟨hi, hl⟩
    exact ⟨hi, (lineAt_of_lt hi).symm.trans hl⟩

theorem trimmedAt_of_lt {ls : List Line} {i : Nat} (h : i < ls.length) :
    trimmedAt ls i = Text.trim ls[i] := by
  rw [trimmedAt, lineAt_of_lt h]

theorem trimmedAt_of_length_le {ls : List Line} {i : Nat} (h : ls.length ≤ i) : trimmedAt ls i = [] := by
  rw [trimmedAt, lineAt_of_length_le h]
  rfl

/-! ## Scans -/

section Scan

variable {σ : Type} (step : σ → Line → σ) (hit : σ → Line → Bool)

/-- The numbers of the lines, counted from `n`, that are reported on the way down from a state. -/
def scanLines (s : σ) (n : Nat) : List Line → List Nat
  | [] => []
  | l :: ls => (if hit s l then [n] else []) ++ scanLines (step s l) (n + 1) ls

/-- The state before the line at a position. -/
def stateBefore (s : σ) (ls : List Line) (i : Nat) : σ := (ls.take i).foldl step s

variable {step hit}

@[simp] theorem stateBefore_zero (s : σ) (ls : List Line) : stateBefore step s ls 0 = s := rfl

theorem stateBefore_succ (s : σ) {ls : List Line} {i : Nat} (h : i < ls.length) :
    stateBefore step s ls (i + 1) = step (stateBefore step s ls i) ls[i] := by
  rw [stateBefore, List.take_add_one, List.getElem?_eq_getElem h, Option.toList_some,
    List.foldl_append]
  rfl

theorem stateBefore_cons (s : σ) (l : Line) (ls : List Line) (i : Nat) :
    stateBefore step s (l :: ls) (i + 1) = stateBefore step (step s l) ls i := rfl

theorem le_of_mem_scanLines {s : σ} {n m : Nat} {ls : List Line} (h : m ∈ scanLines step hit s n ls) :
    n ≤ m := by
  induction ls generalizing s n with
  | nil => cases h
  | cons l ls ih =>
    rcases List.mem_append.mp h with h | h
    · split at h
      · exact Nat.le_of_eq (List.mem_singleton.mp h).symm
      · cases h
    · exact Nat.le_of_succ_le (ih h)

/-- A scan reports a line by the state before it. -/
theorem mem_scanLines_iff {s : σ} {n i : Nat} {ls : List Line} :
    n + i ∈ scanLines step hit s n ls ↔
      ∃ h : i < ls.length, hit (stateBefore step s ls i) ls[i] = true := by
  induction ls generalizing s n i with
  | nil => simp [scanLines]
  | cons l ls ih =>
    rw [scanLines, List.mem_append]
    cases i with
    | zero =>
      have hbelow : n + 0 ∉ scanLines step hit (step s l) (n + 1) ls := fun h =>
        absurd (le_of_mem_scanLines h) (Nat.not_succ_le_self n)
      rw [or_iff_left hbelow]
      cases hhit : hit s l <;> simp [hhit]
    | succ i =>
      have hhere : n + (i + 1) ∉ (if hit s l then [n] else []) := by
        split <;> simp
      rw [or_iff_right hhere, ← Nat.add_assoc, Nat.add_right_comm, ih]
      simp only [stateBefore_cons, List.length_cons, Nat.add_lt_add_iff_right,
        List.getElem_cons_succ]

end Scan

end JavaReview.Rule
