import JavaReview.Proofs.Rule.Lines
import JavaReview.Proofs.Rule.LoopBlocks
import Mathlib.Order.Monotone.Basic

/-!
The scan for infinite loops as steps from one position to the next. A line of a block comment is passed,
and any other is judged, after which the scan goes on where the verdict says. Every step leads forward, so
the positions of a scan are in order and each line is either looked at or passed over with one loop
(`LoopScan.exists_between`). The rule reports the positions that the scan judges and finds fault with
(`mem_infiniteLoops_iff`).
-/

namespace JavaReview.Rule

def verdictAt (ls : List Line) (i : Nat) : LoopVerdict := judge ls i (statementAt ls i)

theorem verdictAt_cases (ls : List Line) (i : Nat) :
    LoopCase ls i (statementAt ls i) (verdictAt ls i) := judge_cases ls i (statementAt ls i)

theorem LoopCase.verdictAt_eq {ls : List Line} {i : Nat} {v : LoopVerdict}
    (h : LoopCase ls i (statementAt ls i) v) : verdictAt ls i = v := h.judge_eq

/-- Where the scan stands: the position it looks at, and whether a block comment is open before that. -/
structure LoopScan where
  pos : Nat
  comment : Bool

namespace LoopScan

def start : LoopScan := ⟨0, false⟩

section Steps

variable (ls : List Line) (s : LoopScan)

/-- Whether the line belongs to a block comment. -/
def isCommented : Bool := inBlockComment s.comment (ls[s.pos]?.getD [])

/-- The scan after one line or, if that starts a loop, after the loop. -/
def next : LoopScan :=
  if s.isCommented ls then ⟨s.pos + 1, commentStaysOpen (ls[s.pos]?.getD [])⟩
  else ⟨(verdictAt ls s.pos).resume, false⟩

def after (n : Nat) : LoopScan := (next ls)^[n] start

/-- The positions that are reported from here on. -/
def reported : List Nat := infiniteLoops ls s.pos s.comment s.pos (ls.drop s.pos)

end Steps

variable {ls : List Line} {s : LoopScan}

theorem next_of_isCommented (h : s.isCommented ls = true) :
    s.next ls = ⟨s.pos + 1, commentStaysOpen (ls[s.pos]?.getD [])⟩ := if_pos h

theorem next_of_judged (h : s.isCommented ls = false) :
    s.next ls = ⟨(verdictAt ls s.pos).resume, false⟩ := by
  rw [next, h]
  rfl

theorem pos_lt_next (ls : List Line) (s : LoopScan) : s.pos < (s.next ls).pos := by
  rw [next]
  split
  · exact Nat.lt_succ_self s.pos
  · exact (verdictAt_cases ls s.pos).lt_resume

theorem pos_le_iterate (ls : List Line) (s : LoopScan) (n : Nat) :
    s.pos ≤ ((next ls)^[n] s).pos := by
  induction n with
  | zero => exact Nat.le_refl _
  | succ n ih =>
    rw [Function.iterate_succ_apply']
    exact ih.trans (Nat.le_of_lt (pos_lt_next ls _))

/-! ## The order of the positions -/

theorem after_succ (ls : List Line) (n : Nat) : after ls (n + 1) = (after ls n).next ls :=
  Function.iterate_succ_apply' (next ls) n start

theorem strictMono_after (ls : List Line) : StrictMono fun n => (after ls n).pos := by
  refine strictMono_nat_of_lt_succ fun n => ?_
  rw [after_succ]
  exact pos_lt_next ls (after ls n)

/-- The next position of a scan is at or before any later one. -/
theorem next_pos_le {m n : Nat} (h : (after ls m).pos < (after ls n).pos) :
    ((after ls m).next ls).pos ≤ (after ls n).pos := by
  have hlt : m < n := (strictMono_after ls).lt_iff_lt.mp h
  rw [← after_succ]
  exact (strictMono_after ls).monotone hlt

/-- Every line is looked at, or passed over in one step. -/
theorem exists_between (ls : List Line) (k : Nat) :
    ∃ n, (after ls n).pos ≤ k ∧ k < ((after ls n).next ls).pos := by
  induction k with
  | zero => exact ⟨0, Nat.le_refl 0, Nat.zero_lt_of_lt (pos_lt_next ls start)⟩
  | succ k ih =>
    obtain ⟨n, hle, hlt⟩ := ih
    by_cases hnext : k + 1 < ((after ls n).next ls).pos
    · exact ⟨n, by omega, hnext⟩
    · refine ⟨n + 1, ?_, ?_⟩
      · rw [after_succ]
        omega
      · have hforward := pos_lt_next ls (after ls (n + 1))
        rw [after_succ] at hforward ⊢
        omega

/-! ## What is reported -/

theorem reported_of_length_le (h : ls.length ≤ s.pos) : s.reported ls = [] := by
  rw [reported, List.drop_eq_nil_of_le h]
  rfl

end LoopScan

/-- A scan that has passed the position at which it goes on has forgotten it. -/
theorem infiniteLoops_resume_congr {all : List Line} {resume resume' i : Nat} (comment : Bool)
    (ls : List Line) (h : resume ≤ i) (h' : resume' ≤ i) :
    infiniteLoops all resume comment i ls = infiniteLoops all resume' comment i ls := by
  induction ls generalizing comment i with
  | nil => rfl
  | cons l ls ih =>
    rw [infiniteLoops, infiniteLoops, if_neg (Nat.not_lt.mpr h), if_neg (Nat.not_lt.mpr h')]
    split
    · exact ih _ (Nat.le_succ_of_le h) (Nat.le_succ_of_le h')
    · rfl

/-- The lines of a loop that was judged are passed over. -/
theorem infiniteLoops_skip (ls : List Line) (comment : Bool) {i resume : Nat} (h : i ≤ resume) :
    infiniteLoops ls resume comment i (ls.drop i) =
      infiniteLoops ls resume comment resume (ls.drop resume) := by
  obtain ⟨n, rfl⟩ := Nat.exists_eq_add_of_le h
  induction n generalizing i with
  | zero => rfl
  | succ n ih =>
    have htail := ih (i := i + 1) (by omega)
    rw [Nat.add_right_comm, Nat.add_assoc] at htail
    rw [← htail]
    by_cases hi : i < ls.length
    · rw [List.drop_eq_getElem_cons hi, infiniteLoops, if_pos (by omega)]
    · rw [List.drop_eq_nil_of_le (by omega), List.drop_eq_nil_of_le (by omega)]
      rfl

namespace LoopScan

variable {ls : List Line} {s : LoopScan}

/-- One step of the scan: what the verdict on a line that is judged says, and what is reported after. -/
theorem reported_step (h : s.pos < ls.length) :
    s.reported ls =
      (if s.isCommented ls = false ∧ (verdictAt ls s.pos).reported then [s.pos] else []) ++
        (s.next ls).reported ls := by
  have hline := getD_of_lt h
  rw [reported, List.drop_eq_getElem_cons h, infiniteLoops, if_neg (Nat.lt_irrefl _)]
  cases hcomment : s.isCommented ls with
  | true =>
    rw [next_of_isCommented hcomment, reported, hline]
    rw [isCommented, hline] at hcomment
    rw [if_pos hcomment, infiniteLoops_resume_congr _ _ (Nat.le_succ s.pos) (Nat.le_refl _)]
    rfl
  | false =>
    have hforward := pos_lt_next ls s
    rw [next_of_judged hcomment] at hforward ⊢
    rw [isCommented, hline] at hcomment
    have hverdict : judge ls s.pos (Line.statement ls[s.pos]) = verdictAt ls s.pos := by
      rw [verdictAt, statementAt_of_lt h]
    simp only [hcomment, Bool.false_eq_true, if_false, true_and, hverdict, reported]
    rw [infiniteLoops_skip ls false hforward]

/-- A run of the scan reports the positions it judges and finds fault with. -/
theorem mem_reported_iff {i : Nat} : i ∈ s.reported ls ↔ ∃ n, ((next ls)^[n] s).pos = i ∧
    i < ls.length ∧ ((next ls)^[n] s).isCommented ls = false ∧ (verdictAt ls i).reported := by
  -- What is left of the text after the position gets shorter with each step.
  induction hleft : ls.length - s.pos using Nat.strong_induction_on generalizing s with
  | _ left ih =>
    by_cases hpos : s.pos < ls.length
    · have hforward := pos_lt_next ls s
      rw [reported_step hpos, List.mem_append, ih _ (by omega) rfl]
      constructor
      · rintro (hmem | ⟨n, hn⟩)
        · split at hmem
          next hfault =>
            cases List.mem_singleton.mp hmem
            exact ⟨0, rfl, hpos, hfault⟩
          next => cases hmem
        · exact ⟨n + 1, by rwa [Function.iterate_succ_apply]⟩
      · rintro ⟨n, hn⟩
        cases n with
        | zero =>
          obtain ⟨hi, -, hfault⟩ := hn
          cases hi
          left
          rw [Function.iterate_zero_apply] at hfault ⊢
          rw [if_pos hfault]
          exact List.mem_singleton_self _
        | succ n => exact .inr ⟨n, by rwa [Function.iterate_succ_apply] at hn⟩
    · rw [reported_of_length_le (Nat.le_of_not_lt hpos)]
      refine ⟨fun hmem => absurd hmem List.not_mem_nil, ?_⟩
      rintro ⟨n, rfl, hlt, -⟩
      exact absurd ((pos_le_iterate ls s n).trans_lt hlt) hpos

end LoopScan

/-- A position that the scan looks at outside of block comments. -/
def Judges (ls : List Line) (i : Nat) : Prop :=
  i < ls.length ∧ ∃ n, (LoopScan.after ls n).pos = i ∧ (LoopScan.after ls n).isCommented ls = false

theorem mem_infiniteLoops_iff {ls : List Line} {i : Nat} :
    i ∈ infiniteLoops ls 0 false 0 ls ↔ Judges ls i ∧ (verdictAt ls i).reported := by
  rw [show infiniteLoops ls 0 false 0 ls = LoopScan.start.reported ls from rfl,
    LoopScan.mem_reported_iff]
  constructor
  · rintro ⟨n, hpos, hlt, hcomment, hfault⟩
    exact ⟨⟨hlt, n, hpos, hcomment⟩, hfault⟩
  · rintro ⟨⟨hlt, n, hpos, hcomment⟩, hfault⟩
    exact ⟨n, hpos, hlt, hcomment, hfault⟩

/-- The step from a position that is judged leads to where its verdict says. -/
theorem Judges.resume_le {ls : List Line} {i n : Nat} (h : Judges ls i)
    (hlt : i < (LoopScan.after ls n).pos) : (verdictAt ls i).resume ≤ (LoopScan.after ls n).pos := by
  obtain ⟨-, m, rfl, hcomment⟩ := h
  have hle := LoopScan.next_pos_le hlt
  rwa [LoopScan.next_of_judged hcomment] at hle

/-! ## The rule -/

/-- A rule that reports a line of a text. -/
def ReportsLine (rule : Rule) (ctx : Context) (n : Nat) : Prop :=
  ∃ fs, rule.apply ctx = .ok fs ∧ ∃ f ∈ fs, f.line = n

theorem reportsLine_infiniteLoop_iff {ctx : Context} {i : Nat} :
    infiniteLoop.ReportsLine ctx (i + 1) ↔
      Judges ctx.lines i ∧ (verdictAt ctx.lines i).reported := by
  rw [← mem_infiniteLoops_iff]
  constructor
  · rintro ⟨fs, hfs, f, hf, hline⟩
    cases hfs
    obtain ⟨g, hg, rfl⟩ := List.mem_map.mp hf
    obtain ⟨j, hj, rfl⟩ := List.mem_map.mp hg
    rw [Finding.line_stamp, Issue.line_atLine] at hline
    have hij : j = i := by omega
    exact hij ▸ hj
  · intro hi
    refine ⟨_, rfl, _, List.mem_map_of_mem (List.mem_map_of_mem hi), ?_⟩
    rw [Finding.line_stamp, Issue.line_atLine]

end JavaReview.Rule
