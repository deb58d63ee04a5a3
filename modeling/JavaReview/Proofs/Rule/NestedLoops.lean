import JavaReview.Proofs.Rule.LineScan
import Mathlib.Algebra.BigOperators.Intervals
import Mathlib.Order.Bounds.Basic

/-!
Loops that are opened while another is open. The depth goes up by one at a loop header and down by one at
a line with a closing brace, but not below zero; so it is the greatest surplus of headers over closing
lines on any run of lines that ends there (`isGreatest_loopDepthBefore`), and a header is reported exactly
if some run of lines right above it has more headers than closing lines (`nestedLoop_reportsExactly`).
-/

namespace JavaReview.Rule

/-- A line that ends a loop, if one is open. -/
def closesLoop (l : Line) : Bool := l.contains '\x7d'

section Lines

variable (ls : List Line)

/-- The number of lines of a kind from one position up to the line above another. -/
def countBetween (kind : Line → Bool) (j i : Nat) : Nat :=
  ((Finset.Ico j i).filter fun k => kind (lineAt ls k)).card

/-- The loop headers less the closing lines on the lines from one position up to the line above
another. -/
def loopSurplus (j i : Nat) : Int := countBetween ls Line.hasLoopHeader j i - countBetween ls closesLoop j i

/-- The number of loops that are open before a line. -/
def loopDepthBefore (i : Nat) : Nat := stateBefore nestedDepth 0 ls i

/-- A loop header below some lines, right above it, that have more headers than closing lines. -/
def OpensInside (i : Nat) : Prop :=
  (lineAt ls i).hasLoopHeader = true ∧
    ∃ j < i, countBetween ls closesLoop j i < countBetween ls Line.hasLoopHeader j i

end Lines

/-! ## One line -/

/-- What a line adds to the surplus. -/
def lineSurplus (l : Line) : Int := (if l.hasLoopHeader then 1 else 0) - (if closesLoop l then 1 else 0)

theorem nestedDepth_eq_sub (depth : Nat) (l : Line) : nestedDepth depth l =
    (depth + if l.hasLoopHeader then 1 else 0) - if closesLoop l then 1 else 0 := by
  rw [nestedDepth, ← closesLoop]
  by_cases hheader : l.hasLoopHeader = true <;> by_cases hclose : closesLoop l = true <;>
    simp [hheader, hclose]

/-- The depth is a walk by the surplus of the lines that is held back at zero. -/
theorem nestedDepth_eq_max (depth : Nat) (l : Line) :
    (nestedDepth depth l : Int) = max 0 (depth + lineSurplus l) := by
  rw [nestedDepth_eq_sub, lineSurplus]
  split <;> split <;> omega

/-- The counter of loops over the integers: a closing line takes one away only if some loop is open,
which may be the loop of its own header. -/
def loopCounterStep (counter : Int) (l : Line) : Int :=
  let opened := if l.hasLoopHeader then counter + 1 else counter
  if closesLoop l ∧ 0 < opened then opened - 1 else opened

theorem loopCounterStep_eq_sub (counter : Int) (l : Line) : loopCounterStep counter l =
    counter + (if l.hasLoopHeader then 1 else 0) -
      if closesLoop l ∧ 0 < counter + (if l.hasLoopHeader then 1 else 0) then 1 else 0 := by
  have hopened : (if l.hasLoopHeader then counter + 1 else counter) =
      counter + if l.hasLoopHeader then 1 else 0 := by
    split <;> omega
  simp only [loopCounterStep, hopened]
  by_cases hcloses : closesLoop l = true ∧ 0 < counter + if l.hasLoopHeader then 1 else 0
  · rw [if_pos hcloses, if_pos hcloses]
  · rw [if_neg hcloses, if_neg hcloses, Int.sub_zero]

theorem loopCounterStep_natCast (depth : Nat) (l : Line) :
    loopCounterStep depth l = nestedDepth depth l := by
  rw [loopCounterStep_eq_sub, nestedDepth_eq_sub]
  by_cases hheader : l.hasLoopHeader = true <;> by_cases hclose : closesLoop l = true <;>
    simp [hheader, hclose]
  omega

/-- The counter before a line. -/
def loopCounter (ls : List Line) (i : Nat) : Int := stateBefore loopCounterStep 0 ls i

/-! ## The lines above -/

variable {ls : List Line} {i j : Nat}

theorem countBetween_succ (kind : Line → Bool) (h : j ≤ i) : countBetween ls kind j (i + 1) =
    countBetween ls kind j i + if kind (lineAt ls i) then 1 else 0 := by
  simp only [countBetween, Finset.card_filter]
  exact Finset.sum_Ico_succ_top h _

@[simp] theorem loopSurplus_self (ls : List Line) (i : Nat) : loopSurplus ls i i = 0 := by
  simp [loopSurplus, countBetween]

theorem loopSurplus_succ (h : j ≤ i) :
    loopSurplus ls j (i + 1) = loopSurplus ls j i + lineSurplus (lineAt ls i) := by
  rw [loopSurplus, countBetween_succ _ h, countBetween_succ _ h, loopSurplus, lineSurplus]
  split <;> split <;> omega

theorem loopSurplus_pos_iff : 0 < loopSurplus ls j i ↔
    countBetween ls closesLoop j i < countBetween ls Line.hasLoopHeader j i := by
  rw [loopSurplus, Int.sub_pos, Int.ofNat_lt]

theorem loopDepthBefore_succ (hi : i < ls.length) : (loopDepthBefore ls (i + 1) : Int) =
    max 0 (loopDepthBefore ls i + lineSurplus (lineAt ls i)) := by
  rw [loopDepthBefore, stateBefore_succ _ hi, nestedDepth_eq_max, lineAt_of_lt hi]
  rfl

/-- The depth is the greatest surplus of the lines from anywhere above. -/
theorem isGreatest_loopDepthBefore (hi : i ≤ ls.length) :
    IsGreatest {n | ∃ j ≤ i, loopSurplus ls j i = n} (loopDepthBefore ls i) := by
  induction i with
  | zero =>
    refine ⟨⟨0, Nat.le_refl 0, loopSurplus_self ls 0⟩, ?_⟩
    rintro n ⟨j, hj, rfl⟩
    rw [Nat.le_zero.mp hj, loopSurplus_self]
    exact Int.natCast_nonneg _
  | succ i ih =>
    obtain ⟨⟨j, hj, hattained⟩, hbound⟩ := ih (Nat.le_of_succ_le hi)
    rw [loopDepthBefore_succ hi]
    constructor
    · rcases Int.le_total 0 (loopDepthBefore ls i + lineSurplus (lineAt ls i)) with hopen | hclosed
      · refine ⟨j, Nat.le_succ_of_le hj, ?_⟩
        rw [loopSurplus_succ hj, hattained, max_eq_right hopen]
      · -- the walk is held back here, so the lines start anew below this one
        refine ⟨i + 1, Nat.le_refl _, ?_⟩
        rw [loopSurplus_self, max_eq_left hclosed]
    · rintro n ⟨k, hk, rfl⟩
      rcases Nat.lt_or_eq_of_le hk with hlt | rfl
      · have hki : k ≤ i := Nat.lt_succ_iff.mp hlt
        have hle : loopSurplus ls k i ≤ loopDepthBefore ls i := hbound ⟨k, hki, rfl⟩
        rw [loopSurplus_succ hki]
        exact le_max_of_le_right (Int.add_le_add_right hle _)
      · rw [loopSurplus_self]
        exact le_max_left _ _

theorem loopDepthBefore_pos_iff (hi : i ≤ ls.length) : 0 < loopDepthBefore ls i ↔
    ∃ j < i, countBetween ls closesLoop j i < countBetween ls Line.hasLoopHeader j i := by
  obtain ⟨⟨j, hj, hattained⟩, hbound⟩ := isGreatest_loopDepthBefore hi
  simp only [← loopSurplus_pos_iff]
  constructor
  · intro hpos
    have hsurplus : 0 < loopSurplus ls j i := by omega
    refine ⟨j, Nat.lt_of_le_of_ne hj ?_, hsurplus⟩
    rintro rfl
    rw [loopSurplus_self] at hsurplus
    exact Int.lt_irrefl 0 hsurplus
  · rintro ⟨k, hk, hsurplus⟩
    have hle : loopSurplus ls k i ≤ loopDepthBefore ls i := hbound ⟨k, Nat.le_of_lt hk, rfl⟩
    omega

/-! ## The scan -/

theorem nestedLoops_eq_scanLines (depth n : Nat) (ls : List Line) :
    nestedLoops depth n ls =
      scanLines nestedDepth (fun depth l => l.hasLoopHeader && depth ≥ 1) depth n ls := by
  induction ls generalizing depth n with
  | nil => rfl
  | cons l ls ih => rw [nestedLoops, scanLines, ih]

theorem mem_nestedLoops_iff : i + 1 ∈ nestedLoops 0 1 ls ↔ OpensInside ls i := by
  rw [nestedLoops_eq_scanLines, Nat.add_comm, mem_scanLines_iff, OpensInside]
  constructor
  · rintro ⟨hi, hhit⟩
    obtain ⟨hheader, hdepth⟩ := Bool.and_eq_true_iff.mp hhit
    rw [lineAt_of_lt hi]
    exact ⟨hheader, (loopDepthBefore_pos_iff (Nat.le_of_lt hi)).mp (of_decide_eq_true hdepth)⟩
  · rintro ⟨hheader, hinside⟩
    have hi : i < ls.length :=
      lt_length_of_lineAt (p := fun l => l.hasLoopHeader = true) (by decide) hheader
    rw [lineAt_of_lt hi] at hheader
    have hdepth := (loopDepthBefore_pos_iff (Nat.le_of_lt hi)).mpr hinside
    exact ⟨hi, Bool.and_eq_true_iff.mpr ⟨hheader, decide_eq_true hdepth⟩⟩

theorem loopCounter_eq (hi : i ≤ ls.length) : loopCounter ls i = loopDepthBefore ls i := by
  induction i with
  | zero => rfl
  | succ i ih =>
    rw [loopCounter, stateBefore_succ _ hi, ← loopCounter, ih (Nat.le_of_succ_le hi),
      loopCounterStep_natCast, loopDepthBefore, loopDepthBefore, stateBefore_succ _ hi]

/-- A counter of open loops on the way down the lines of a text. -/
structure CountsLoops (ls : List Line) (counter : Nat → Int) : Prop where
  /-- The counter is the depth that the rule keeps. -/
  eq_depth : ∀ i ≤ ls.length, counter i = loopDepthBefore ls i
  zero : counter 0 = 0
  nonneg : ∀ i ≤ ls.length, 0 ≤ counter i
  /-- A line opens one level if it is a header, and closes one if it is a closing line and a level is
  open, that of the line itself included. -/
  step : ∀ i < ls.length, ∃ opened closed : Int, counter (i + 1) = counter i + opened - closed ∧
    (opened = if (lineAt ls i).hasLoopHeader then 1 else 0) ∧
    closed = if closesLoop (lineAt ls i) ∧ 0 < counter i + opened then 1 else 0
  /-- What is reported is a line that opens a second level. -/
  reports : ∀ i < ls.length, OpensInside ls i ↔
    (lineAt ls i).hasLoopHeader = true ∧ 2 ≤ counter i + 1

theorem countsLoops_loopCounter (ls : List Line) : CountsLoops ls (loopCounter ls) where
  eq_depth _ hi := loopCounter_eq hi
  zero := rfl
  nonneg i hi := by
    rw [loopCounter_eq hi]
    exact Int.natCast_nonneg _
  step i hi := by
    refine ⟨_, _, ?_, rfl, rfl⟩
    rw [loopCounter, stateBefore_succ _ hi, ← loopCounter, loopCounterStep_eq_sub, lineAt_of_lt hi]
  reports i hi := by
    rw [OpensInside, ← loopDepthBefore_pos_iff (Nat.le_of_lt hi), loopCounter_eq (Nat.le_of_lt hi)]
    refine and_congr_right fun _ => ?_
    omega

/-- **Nested loops.** What is reported are the loop headers below some lines, right above them, that have
more headers than closing lines, and the counter of open loops is never negative. -/
theorem nestedLoop_reportsExactly (ctx : Context) :
    (nestedLoop.ReportsExactly ctx fun i issue =>
      OpensInside ctx.lines i ∧ issue = nestedLoopIssue) ∧
      CountsLoops ctx.lines (loopCounter ctx.lines) := by
  refine ⟨?_, countsLoops_loopCounter ctx.lines⟩
  apply reportsExactly_scan (nestedLoops_sublist 0 1 ctx.lines)
  intro i
  exact mem_nestedLoops_iff.symm

end JavaReview.Rule
