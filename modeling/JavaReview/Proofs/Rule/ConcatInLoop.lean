import JavaReview.Proofs.Rule.LineScan
import JavaReview.Proofs.Text.Parts
import Mathlib.Algebra.BigOperators.Intervals

/-!
The lines that are taken to stand in a loop. The scan starts anew at every header, with the braces of the
header as the depth, and then counts the header like any other line of its loop; so a header counts twice,
and one without a brace ends its loop at once. A line stands in a loop exactly if the depth has stayed
positive on all lines from the last header down to it (`depthAt_eq_some_iff`).
-/

namespace JavaReview.Rule

open Text

section Lines

variable (ls : List Line)

/-- The depth after a line of the loop that a header starts. -/
def depthAfterLine (header m : Nat) : Int :=
  2 * deltaAt ls header + ∑ k ∈ Finset.Ioc header m, deltaAt ls k

/-- A line in the loop of a header: no header is below that one, and the loop is not left above the
line. -/
structure StandsInLoop (header i : Nat) : Prop where
  header_le : header ≤ i
  is_header : (lineAt ls header).hasLoopHeader = true
  is_last : ∀ k, header < k → k ≤ i → (lineAt ls k).hasLoopHeader = false
  not_left : ∀ m, header ≤ m → m < i → 0 < depthAfterLine ls header m

/-- A line with a `+=`, or with a plus sign and a double quote. -/
def ConcatenatesAt (i : Nat) : Prop :=
  ['+', '='] <:+: lineAt ls i ∨ '+' ∈ lineAt ls i ∧ '"' ∈ lineAt ls i

end Lines

variable {ls : List Line} {header i : Nat}

theorem concatenates_eq_true_iff : concatenates (lineAt ls i) = true ↔ ConcatenatesAt ls i := by
  rw [concatenates, Bool.or_eq_true, Bool.and_eq_true, contains_iff_isInfix, List.contains_iff_mem,
    List.contains_iff_mem]
  rfl

theorem ConcatenatesAt.lt_length (h : ConcatenatesAt ls i) : i < ls.length := by
  refine lt_length_of_lineAt (p := fun l => ['+', '='] <:+: l ∨ '+' ∈ l ∧ '"' ∈ l) ?_ h
  rintro (hsum | hsum)
  · cases List.infix_nil.mp hsum
  · cases hsum.1

theorem standsInLoop_self (h : (lineAt ls i).hasLoopHeader = true) : StandsInLoop ls i i where
  header_le := Nat.le_refl i
  is_header := h
  is_last _ hik hk := absurd hik (Nat.not_lt.mpr hk)
  not_left _ him hm := absurd hm (Nat.not_lt.mpr him)

theorem StandsInLoop.eq_of_header (h : StandsInLoop ls header i)
    (hi : (lineAt ls i).hasLoopHeader = true) : header = i := by
  rcases Nat.lt_or_eq_of_le h.header_le with hlt | heq
  · have hnone := h.is_last i hlt (Nat.le_refl i)
    rw [hi] at hnone
    cases hnone
  · exact heq

/-- A line that is no header stands in a loop if the one above it does and does not end it. -/
theorem standsInLoop_succ_iff (h : (lineAt ls (i + 1)).hasLoopHeader = false) :
    StandsInLoop ls header (i + 1) ↔ StandsInLoop ls header i ∧ 0 < depthAfterLine ls header i := by
  constructor
  · intro hloop
    have hle : header ≤ i := by
      rcases Nat.lt_or_eq_of_le hloop.header_le with hlt | rfl
      · exact Nat.lt_succ_iff.mp hlt
      · rw [hloop.is_header] at h
        cases h
    refine ⟨⟨hle, hloop.is_header, ?_, ?_⟩, hloop.not_left i hle (Nat.lt_succ_self i)⟩
    · intro k hk hki
      exact hloop.is_last k hk (Nat.le_succ_of_le hki)
    · intro m hm hmi
      exact hloop.not_left m hm (Nat.lt_succ_of_lt hmi)
  · rintro ⟨hloop, hopen⟩
    refine ⟨Nat.le_succ_of_le hloop.header_le, hloop.is_header, ?_, ?_⟩
    · intro k hk hki
      rcases Nat.lt_or_eq_of_le hki with hki | rfl
      · exact hloop.is_last k hk (Nat.lt_succ_iff.mp hki)
      · exact h
    · intro m hm hmi
      rcases Nat.lt_succ_iff_lt_or_eq.mp hmi with hmi | rfl
      · exact hloop.not_left m hm hmi
      · exact hopen

/-! ## The scan -/

def concatStep (depth : Option Int) (l : Line) : Option Int :=
  (loopDepth depth l).bind fun d => depthAfter d l

def concatHit (depth : Option Int) (l : Line) : Bool := (loopDepth depth l).isSome && concatenates l

theorem concatsInLoop_eq_scanLines (depth : Option Int) (n : Nat) (ls : List Line) :
    concatsInLoop depth n ls = scanLines concatStep concatHit depth n ls := by
  induction ls generalizing depth n with
  | nil => rfl
  | cons l ls ih =>
    rw [concatsInLoop, scanLines, concatStep, concatHit]
    cases loopDepth depth l with
    | none => exact ih none (n + 1)
    | some d => exact congrArg _ (ih (depthAfter d l) (n + 1))

/-- The depth that a line is read at, by the lines above it and the line itself. -/
def depthAt (ls : List Line) (i : Nat) : Option Int :=
  loopDepth (stateBefore concatStep none ls i) (lineAt ls i)

theorem depthAt_succ (hi : i < ls.length) (h : (lineAt ls (i + 1)).hasLoopHeader = false) :
    depthAt ls (i + 1) = (depthAt ls i).bind fun d => depthAfter d (lineAt ls i) := by
  rw [depthAt, loopDepth, h, stateBefore_succ _ hi, depthAt, lineAt_of_lt hi]
  rfl

theorem depthAfter_eq_some_iff {d d' : Int} : depthAfter d (lineAt ls i) = some d' ↔
    0 < d + deltaAt ls i ∧ d' = d + deltaAt ls i := by
  rw [depthAfter, ← deltaAt]
  split
  next hle =>
    constructor
    · intro h
      cases h
    · rintro ⟨hpos, -⟩
      exact absurd hle (Int.not_le.mpr hpos)
  next hle => rw [Option.some_inj, eq_comm, and_iff_right (Int.not_le.mp hle)]

/-- The depth of a line in the loop of a header: the braces of the header, and those of the lines from the
header to the one above. -/
def depthOnLine (ls : List Line) (header i : Nat) : Int :=
  deltaAt ls header + ∑ k ∈ Finset.Ico header i, deltaAt ls k

theorem depthOnLine_self (ls : List Line) (i : Nat) : depthOnLine ls i i = deltaAt ls i := by
  simp [depthOnLine]

theorem depthOnLine_succ (h : header ≤ i) :
    depthOnLine ls header (i + 1) = depthOnLine ls header i + deltaAt ls i := by
  rw [depthOnLine, depthOnLine, Finset.sum_Ico_succ_top h, add_assoc]

/-- The header counts once more with the lines of its loop. -/
theorem depthAfterLine_eq (h : header ≤ i) :
    depthAfterLine ls header i = depthOnLine ls header i + deltaAt ls i := by
  have hbelow := Finset.sum_Ioc_add_eq_sum_Icc (f := deltaAt ls) h
  have habove := Finset.sum_Ico_add_eq_sum_Icc (f := deltaAt ls) h
  rw [depthAfterLine, depthOnLine]
  omega

theorem depthAt_of_header (h : (lineAt ls i).hasLoopHeader = true) {d : Int} :
    depthAt ls i = some d ↔ ∃ header, StandsInLoop ls header i ∧ d = depthOnLine ls header i := by
  have hdepth : depthAt ls i = some (deltaAt ls i) := if_pos h
  rw [hdepth, Option.some_inj]
  constructor
  · rintro rfl
    exact ⟨i, standsInLoop_self h, (depthOnLine_self ls i).symm⟩
  · rintro ⟨header, hloop, rfl⟩
    rw [hloop.eq_of_header h, depthOnLine_self]

theorem depthAt_eq_some_iff (hi : i < ls.length) {d : Int} : depthAt ls i = some d ↔
    ∃ header, StandsInLoop ls header i ∧ d = depthOnLine ls header i := by
  induction i generalizing d with
  | zero =>
    cases h : (lineAt ls 0).hasLoopHeader with
    | true => exact depthAt_of_header h
    | false =>
      have hdepth : depthAt ls 0 = none := by
        rw [depthAt, loopDepth, h]
        rfl
      rw [hdepth]
      constructor
      · intro hnone
        cases hnone
      · rintro ⟨header, hloop, -⟩
        have hheader := hloop.is_header
        rw [Nat.le_zero.mp hloop.header_le, h] at hheader
        cases hheader
  | succ i ih =>
    cases h : (lineAt ls (i + 1)).hasLoopHeader with
    | true => exact depthAt_of_header h
    | false =>
      have hlt := Nat.lt_of_succ_lt hi
      rw [depthAt_succ hlt h, Option.bind_eq_some_iff]
      constructor
      · rintro ⟨d', hd', hafter⟩
        obtain ⟨header, hloop, rfl⟩ := (ih hlt).mp hd'
        obtain ⟨hopen, rfl⟩ := depthAfter_eq_some_iff.mp hafter
        rw [← depthAfterLine_eq hloop.header_le] at hopen
        refine ⟨header, (standsInLoop_succ_iff h).mpr ⟨hloop, hopen⟩, ?_⟩
        rw [depthOnLine_succ hloop.header_le]
      · rintro ⟨header, hloop, rfl⟩
        obtain ⟨hloop, hopen⟩ := (standsInLoop_succ_iff h).mp hloop
        refine ⟨_, (ih hlt).mpr ⟨header, hloop, rfl⟩, depthAfter_eq_some_iff.mpr ⟨?_, ?_⟩⟩
        · rwa [← depthAfterLine_eq hloop.header_le]
        · exact depthOnLine_succ hloop.header_le

theorem mem_concatsInLoop_iff : i + 1 ∈ concatsInLoop none 1 ls ↔
    ConcatenatesAt ls i ∧ ∃ header, StandsInLoop ls header i := by
  have hhit (hi : i < ls.length) : concatHit (stateBefore concatStep none ls i) ls[i] = true ↔
      ConcatenatesAt ls i ∧ ∃ header, StandsInLoop ls header i := by
    rw [← lineAt_of_lt hi, concatHit, Bool.and_eq_true, concatenates_eq_true_iff, and_comm,
      ← depthAt, Option.isSome_iff_exists]
    simp only [depthAt_eq_some_iff hi]
    refine and_congr_right fun _ => ⟨?_, ?_⟩
    · rintro ⟨d, header, hloop, -⟩
      exact ⟨header, hloop⟩
    · rintro ⟨header, hloop⟩
      exact ⟨_, header, hloop, rfl⟩
  rw [concatsInLoop_eq_scanLines, Nat.add_comm, mem_scanLines_iff]
  constructor
  · rintro ⟨hi, hline⟩
    exact (hhit hi).mp hline
  · intro hline
    exact ⟨hline.1.lt_length, (hhit hline.1.lt_length).mpr hline⟩

/-- **Concatenation in loops.** What is reported are the concatenations on lines that stand in a loop. -/
theorem concatInLoop_reportsExactly (ctx : Context) :
    concatInLoop.ReportsExactly ctx fun i issue =>
      (ConcatenatesAt ctx.lines i ∧ ∃ header, StandsInLoop ctx.lines header i) ∧
        issue = concatInLoopIssue := by
  apply reportsExactly_scan (concatsInLoop_sublist none 1 ctx.lines)
  intro i
  exact mem_concatsInLoop_iff.symm

end JavaReview.Rule
