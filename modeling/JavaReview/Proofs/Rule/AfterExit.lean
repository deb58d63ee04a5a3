import JavaReview.Proofs.Rule.LineScan
import JavaReview.Proofs.Text.Parts
import Mathlib.Algebra.BigOperators.Group.Finset.Basic
import Mathlib.Algebra.BigOperators.Intervals

/-!
The statements that are reported as unreachable, told without the flag of the scan. The flag is up before a
line exactly if there is an exit above and nothing since has taken it down (`exitSeenBefore_iff`): no
statement that was reported in its place, no closing brace at the end of a line and no label. A reported
statement takes the flag down and, being an exit itself, may raise it again.
-/

namespace JavaReview

theorem Line.braceDelta_trim (l : Line) : Line.braceDelta (Text.trim l) = l.braceDelta := by
  rw [Line.braceDelta, Line.braceDelta, Text.count_trim (by decide), Text.count_trim (by decide)]

namespace Rule

open Text

section Lines

variable (ls : List Line) (i : Nat)

/-- A line that leaves its block. -/
def IsExitLine : Prop := ∃ word ∈ ["return", "throw ", "break", "continue"], word.toList <+: trimmedAt ls i

/-- A label of a switch. -/
def IsLabelLine : Prop := ∃ word ∈ ["case ", "default:"], word.toList <+: trimmedAt ls i

/-- A line that is reported if an exit is just above it. Up to its end no more braces are closed than
opened. -/
structure IsStatementLine : Prop where
  not_blank : trimmedAt ls i ≠ []
  not_closing : ¬ ['\x7d'] <+: trimmedAt ls i
  not_label : ¬ IsLabelLine ls i
  balanced : 0 ≤ ∑ k ∈ Finset.range (i + 1), deltaAt ls k

/-- A statement with an exit above it, and between them no statement, no closing brace at the end of a
line and no label. -/
def FollowsExit : Prop :=
  IsStatementLine ls i ∧ ∃ j < i, IsExitLine ls j ∧
    ∀ k, j < k → k < i → ¬ IsStatementLine ls k ∧ ¬ ['\x7d'] <:+ trimmedAt ls k ∧ ¬ IsLabelLine ls k

end Lines

variable {ls : List Line} {i : Nat}

theorem isExit_eq_true_iff : isExit (trimmedAt ls i) = true ↔ IsExitLine ls i := by
  simp [isExit, IsExitLine, or_assoc]

theorem isCaseLabel_eq_true_iff : isCaseLabel (trimmedAt ls i) = true ↔ IsLabelLine ls i := by
  simp [isCaseLabel, IsLabelLine]

theorem IsStatementLine.lt_length (h : IsStatementLine ls i) : i < ls.length := by
  exact Nat.lt_of_not_le fun hle => h.not_blank (trimmedAt_of_length_le hle)

theorem isCandidate_eq_true_iff :
    isCandidate (∑ k ∈ Finset.range (i + 1), deltaAt ls k) (trimmedAt ls i) = true ↔
      IsStatementLine ls i := by
  have hclosing : (trimmedAt ls i).head? = some '\x7d' ↔ ['\x7d'] <+: trimmedAt ls i := by
    cases trimmedAt ls i <;> simp [eq_comm]
  simp only [isCandidate, Bool.and_eq_true, decide_eq_true_eq, Bool.not_eq_true', bne_iff_ne,
    ne_eq, hclosing, ← Bool.not_eq_true, List.isEmpty_iff, isCaseLabel_eq_true_iff]
  constructor
  · rintro ⟨⟨⟨hbalanced, hblank⟩, hclosing⟩, hlabel⟩
    exact ⟨hblank, hclosing, hlabel, hbalanced⟩
  · rintro ⟨hblank, hclosing, hlabel, hbalanced⟩
    exact ⟨⟨⟨hbalanced, hblank⟩, hclosing⟩, hlabel⟩

/-! ## The scan -/

/-- Whether a line is reported, by the flag and the balance of the braces above it. -/
def exitHit (s : Bool × Int) (raw : Line) : Bool :=
  s.1 && isCandidate (s.2 + Line.braceDelta (trim raw)) (trim raw)

/-- The flag and the balance after a line. -/
def exitStep (s : Bool × Int) (raw : Line) : Bool × Int :=
  (exitSeen (s.1 && !exitHit s raw) (trim raw), s.2 + Line.braceDelta (trim raw))

theorem unreachableLines_eq_scanLines (seen : Bool) (balance : Int) (n : Nat) (ls : List Line) :
    unreachableLines seen balance n ls = scanLines exitStep exitHit (seen, balance) n ls := by
  induction ls generalizing seen balance n with
  | nil => rfl
  | cons raw ls ih =>
    rw [unreachableLines, scanLines, ← ih]
    rfl

/-- The state that the lines above a position leave. -/
def exitStateAt (ls : List Line) (i : Nat) : Bool × Int := stateBefore exitStep (false, 0) ls i

theorem balance_exitStateAt (h : i ≤ ls.length) :
    (exitStateAt ls i).2 = ∑ k ∈ Finset.range i, deltaAt ls k := by
  induction i with
  | zero => rfl
  | succ i ih =>
    rw [Finset.sum_range_succ, ← ih (Nat.le_of_succ_le h), deltaAt, lineAt_of_lt h,
      ← Line.braceDelta_trim, exitStateAt, stateBefore_succ _ h]
    rfl

theorem exitHit_eq_true_iff (h : i < ls.length) :
    exitHit (exitStateAt ls i) ls[i] = true ↔ (exitStateAt ls i).1 = true ∧ IsStatementLine ls i := by
  rw [exitHit, Bool.and_eq_true, ← isCandidate_eq_true_iff, Finset.sum_range_succ,
    balance_exitStateAt (Nat.le_of_lt h), deltaAt, lineAt_of_lt h, Line.braceDelta_trim,
    trimmedAt_of_lt h]

/-- A line raises the flag, or leaves it up if it neither is reported nor ends a block. -/
theorem exitSeen_succ_iff (h : i < ls.length) : (exitStateAt ls (i + 1)).1 = true ↔
    IsExitLine ls i ∨ (exitStateAt ls i).1 = true ∧
      ¬ IsStatementLine ls i ∧ ¬ ['\x7d'] <:+ trimmedAt ls i ∧ ¬ IsLabelLine ls i := by
  have hstep : (exitStateAt ls (i + 1)).1 =
      exitSeen ((exitStateAt ls i).1 && !exitHit (exitStateAt ls i) ls[i]) (trimmedAt ls i) := by
    rw [exitStateAt, stateBefore_succ _ h, trimmedAt_of_lt h]
    rfl
  have hhit := exitHit_eq_true_iff h
  rw [hstep, exitSeen]
  split
  next hexit => simp [isExit_eq_true_iff.mp hexit]
  next hexit =>
    rw [isExit_eq_true_iff] at hexit
    rw [or_iff_right hexit]
    split
    next hend =>
      rw [Bool.or_eq_true, isCaseLabel_eq_true_iff, List.isSuffixOf_iff_suffix] at hend
      tauto
    next hend =>
      rw [Bool.or_eq_true, isCaseLabel_eq_true_iff, List.isSuffixOf_iff_suffix] at hend
      rw [Bool.and_eq_true, Bool.not_eq_true', ← Bool.not_eq_true, hhit]
      tauto

/-- The flag is up before a line exactly if nothing since the last exit above it has taken it down. -/
theorem exitSeenBefore_iff (h : i ≤ ls.length) : (exitStateAt ls i).1 = true ↔
    ∃ j < i, IsExitLine ls j ∧ ∀ k, j < k → k < i →
      ¬ IsStatementLine ls k ∧ ¬ ['\x7d'] <:+ trimmedAt ls k ∧ ¬ IsLabelLine ls k := by
  induction i with
  | zero => simp [exitStateAt]
  | succ i ih =>
    rw [exitSeen_succ_iff h, ih (Nat.le_of_succ_le h)]
    constructor
    · rintro (hexit | ⟨⟨j, hj, hexit, hkept⟩, hline⟩)
      · exact ⟨i, Nat.lt_succ_self i, hexit, fun k hik hk => absurd hk (Nat.not_lt.mpr hik)⟩
      · refine ⟨j, Nat.lt_succ_of_lt hj, hexit, ?_⟩
        intro k hjk hk
        rcases Nat.lt_succ_iff_lt_or_eq.mp hk with hk | rfl
        · exact hkept k hjk hk
        · exact hline
    · rintro ⟨j, hj, hexit, hkept⟩
      rcases Nat.lt_succ_iff_lt_or_eq.mp hj with hj | rfl
      · right
        refine ⟨⟨j, hj, hexit, ?_⟩, hkept i hj (Nat.lt_succ_self i)⟩
        intro k hjk hk
        exact hkept k hjk (Nat.lt_succ_of_lt hk)
      · exact .inl hexit

theorem mem_unreachableLines_iff : i + 1 ∈ unreachableLines false 0 1 ls ↔ FollowsExit ls i := by
  rw [unreachableLines_eq_scanLines, Nat.add_comm, mem_scanLines_iff]
  constructor
  · rintro ⟨h, hhit⟩
    obtain ⟨hseen, hline⟩ := (exitHit_eq_true_iff h).mp hhit
    exact ⟨hline, (exitSeenBefore_iff (Nat.le_of_lt h)).mp hseen⟩
  · rintro ⟨hline, hexit⟩
    have h := hline.lt_length
    exact ⟨h, (exitHit_eq_true_iff h).mpr ⟨(exitSeenBefore_iff (Nat.le_of_lt h)).mpr hexit, hline⟩⟩

/-- **Unreachable statements.** What is reported are the statements that follow an exit. -/
theorem unreachableAfterReturn_reportsExactly (ctx : Context) :
    unreachableAfterReturn.ReportsExactly ctx fun i issue =>
      FollowsExit ctx.lines i ∧ issue = unreachableIssue := by
  apply reportsExactly_scan (unreachableLines_sublist false 0 1 ctx.lines)
  intro i
  exact mem_unreachableLines_iff.symm

end Rule

end JavaReview
