import JavaReview.Proofs.Rule.LoopScan

/-!
The scan for infinite loops as a loop over an index. Here every line is read by its position, and a read
fails where there is no line (`ByPosition`); the loop gives up after so many iterations. It never fails, does
not give up if it may go on as often as there are lines, and does what the scan does (`ByPosition.exists_run`).
-/

namespace JavaReview.Rule

open Text

namespace ByPosition

/-! ## Reads -/

section Reads

-- A function reads lines at the positions it names, in order, and is otherwise the one of its name in `Rule`.
variable (ls : List Line)

/-- The positions from one up to another, without that one. -/
def positions (first stop : Nat) : List Nat := List.range' first (stop - first)

def find (fits : Line → Bool) : List Nat → Option (Option Nat)
  | [] => some none
  | j :: js => do
    let l ← ls[j]?
    if fits l then some (some j) else find fits js

def balanced (balance : Int) : List Nat → Option (Option Nat)
  | [] => some none
  | j :: js => do
    let l ← ls[j]?
    if balance + l.code.braceDelta ≤ 0 then some (some j)
    else balanced (balance + l.code.braceDelta) js

def blockFrom (start : Nat) : Option (Option (Nat × Nat)) := do
  let last ← balanced ls 0 (positions start ls.length)
  some (some (start, last.getD (ls.length - 1)))

def findBlock (header : Nat) : Option (Option (Nat × Nat)) := do
  let l ← ls[header]?
  if l.code.contains '\x7b' then blockFrom ls header
  else
    match ← find ls (fun l => !l.statement.isEmpty) (positions (header + 1) ls.length) with
    | none => some none
    | some j => do
      let l ← ls[j]?
      if ['\x7b'].isPrefixOf l.statement then blockFrom ls j else some none

def linesHaveExit (first last : Nat) : Option Bool :=
  (find ls (fun l => isLoopExit l.statement) (positions first (min (last + 1) ls.length))).map
    Option.isSome

def blockHasExit (start last : Nat) : Option Bool := do
  let l ← ls[start]?
  if isLoopExit (trim ((after? '\x7b' l.code).getD l.code)) then some true
  else linesHaveExit ls (start + 1) last

def statementEnd (start : Nat) : Option Nat :=
  (find ls (fun l => [';'].isSuffixOf l.statement || ['\x7d'].isSuffixOf l.statement)
    (positions start ls.length)).map fun j => j.getD (min start (ls.length - 1))

def doWhile (last : Nat) : Option (Option (Nat × Line)) := do
  let l ← ls[last]?
  if !(afterBrace l.code).isEmpty then
    some (if isWhileTail (afterBrace l.code) then some (last, afterBrace l.code) else none)
  else
    match ← find ls (fun l => !l.statement.isEmpty)
      (positions (last + 1) (min (last + 3) ls.length)) with
    | none => some none
    | some j => do
      let l ← ls[j]?
      some (if isWhileTail l.statement then some (j, l.statement) else none)

def judgeLoop (i : Nat) (t : Line) : Option LoopVerdict := do
  if hasNoBody t then some ⟨true, i + 1⟩
  else
    match ← findBlock ls i with
    | none => do
      let last ← statementEnd ls (i + 1)
      let exits ← linesHaveExit ls (i + 1) last
      some ⟨!exits, i + 1⟩
    | some (start, last) => do
      let exits ← blockHasExit ls start last
      some ⟨!exits, last + 1⟩

def judgeDo (i : Nat) : Option LoopVerdict := do
  match ← findBlock ls i with
  | none => some ⟨false, i + 1⟩
  | some (start, last) =>
    match ← doWhile ls last with
    | none => some ⟨false, last + 1⟩
    | some (j, t) => do
      let exits ← blockHasExit ls start last
      some ⟨isUnconditionalTail t && !exits, j + 1⟩

def judge (i : Nat) : Option LoopVerdict := do
  let l ← ls[i]?
  if isUnconditional l.statement then judgeLoop ls i l.statement
  else if isDoHeader l.statement then judgeDo ls i
  else some ⟨false, i + 1⟩

/-- One iteration: where the scan goes on, and whether the position is reported. -/
def step (s : LoopScan) : Option (LoopScan × Bool) := do
  let l ← ls[s.pos]?
  if inBlockComment s.comment l then some (⟨s.pos + 1, commentStaysOpen l⟩, false)
  else
    let v ← judge ls s.pos
    some (⟨v.resume, false⟩, v.reported)

/-- The positions that the loop comes to in so many iterations at most, in order, each with whether it is
reported. Fails if a line is read where there is none, or if the end of the text is not reached. -/
def run : Nat → LoopScan → Option (List (Nat × Bool))
  | 0, s => if s.pos < ls.length then none else some []
  | n + 1, s =>
    if s.pos < ls.length then do
      let (t, isReported) ← step ls s
      let visits ← run n t
      some ((s.pos, isReported) :: visits)
    else some []

end Reads

/-! ## No read fails -/

theorem map_findIdx?_cons (fits : Line → Bool) (i : Nat) (l : Line) (ls : List Line) :
    ((l :: ls).findIdx? fits).map (i + ·) =
      if fits l then some i else (ls.findIdx? fits).map (i + 1 + ·) := by
  rw [List.findIdx?_cons]
  split
  · rfl
  · rw [Option.map_map]
    congr 1
    funext j
    exact (Nat.add_right_comm i 1 j).symm

theorem firstStatement?_eq (i : Nat) (ls : List Line) :
    firstStatement? i ls = (ls.findIdx? fun l => !l.statement.isEmpty).map (i + ·) := by
  induction ls generalizing i with
  | nil => rfl
  | cons l ls ih =>
    rw [firstStatement?, map_findIdx?_cons, ih]
    cases l.statement.isEmpty <;> rfl

theorem statementEnd?_eq (i : Nat) (ls : List Line) : statementEnd? i ls =
    (ls.findIdx? fun l => [';'].isSuffixOf l.statement || ['\x7d'].isSuffixOf l.statement).map
      (i + ·) := by
  induction ls generalizing i with
  | nil => rfl
  | cons l ls ih => rw [statementEnd?, map_findIdx?_cons, ih]

variable {ls : List Line}

/-- Positions of lines are read one after the other as the lines are. -/
theorem find_positions (fits : Line → Bool) {i stop : Nat} (h : stop ≤ ls.length) :
    find ls fits (positions i stop) =
      some ((((ls.drop i).take (stop - i)).findIdx? fits).map (i + ·)) := by
  rw [positions]
  induction hn : stop - i generalizing i with
  | zero => rfl
  | succ n ih =>
    have hi : i < ls.length := by omega
    rw [List.range'_succ, find, List.getElem?_eq_getElem hi, List.drop_eq_getElem_cons hi,
      List.take_succ_cons, map_findIdx?_cons]
    simp only [Option.bind_eq_bind, Option.bind_some, ih (i := i + 1) (by omega)]
    split <;> rfl

theorem take_sub_drop {i : Nat} : (ls.drop i).take (ls.length - i) = ls.drop i :=
  List.take_of_length_le (by rw [List.length_drop])

theorem balanced_positions (ls : List Line) (balance : Int) (i : Nat) :
    (balanced ls balance (positions i ls.length)).map (·.getD (ls.length - 1)) =
      some (if i < ls.length then blockEnd balance i (ls.drop i) else ls.length - 1) := by
  rw [positions]
  induction hn : ls.length - i generalizing balance i with
  | zero => rw [if_neg (by omega)]; rfl
  | succ n ih =>
    have hi : i < ls.length := by omega
    rw [if_pos hi, List.range'_succ, balanced, List.getElem?_eq_getElem hi,
      List.drop_eq_getElem_cons hi, blockEnd]
    simp only [Option.bind_eq_bind, Option.bind_some]
    split
    · rfl
    · rw [ih _ _ (by omega)]
      split
      · rfl
      · -- The last line was the one just read.
        rw [List.drop_eq_nil_of_le (by omega), blockEnd]
        congr 1
        omega

theorem blockFrom_eq {start : Nat} (h : start < ls.length) :
    blockFrom ls start = some (some (start, blockEnd 0 start (ls.drop start))) := by
  have hbalanced := balanced_positions ls 0 start
  rw [if_pos h] at hbalanced
  obtain ⟨last, hlast, hend⟩ := Option.map_eq_some_iff.mp hbalanced
  rw [blockFrom, hlast, ← hend]
  rfl

theorem findBlock_eq {header : Nat} (h : header < ls.length) :
    findBlock ls header = some (findBlock? ls header) := by
  rw [findBlock, findBlock?, blockOpen?, codeAt_of_lt h, List.getElem?_eq_getElem h,
    Option.bind_eq_bind, Option.bind_some]
  split
  · exact blockFrom_eq h
  · rw [find_positions _ (Nat.le_refl _), take_sub_drop, ← firstStatement?_eq]
    simp only [Option.bind_eq_bind, Option.bind_some]
    cases hfirst : firstStatement? (header + 1) (ls.drop (header + 1)) with
    | none => rfl
    | some j =>
      have hj : j < ls.length := lt_of_firstStatement? List.prefix_rfl hfirst
      simp only [statementAt_of_lt hj, List.getElem?_eq_getElem hj, Option.bind_some]
      split
      · exact blockFrom_eq hj
      · rfl

theorem linesHaveExit_eq (first last : Nat) :
    linesHaveExit ls first last = some (Rule.linesHaveExit ls first last) := by
  have htake : (ls.drop first).take (min (last + 1) ls.length - first) = linesBetween ls first last := by
    rw [linesBetween, List.take_eq_take_iff, List.length_drop]
    omega
  rw [linesHaveExit, find_positions _ (Nat.min_le_right _ _), htake, Option.map_some,
    Option.isSome_map, List.findIdx?_isSome]
  rfl

theorem statementEnd_eq (start : Nat) :
    statementEnd ls start = some (Rule.statementEnd ls start) := by
  rw [statementEnd, find_positions _ (Nat.le_refl _), take_sub_drop, ← statementEnd?_eq]
  rfl

theorem blockHasExit_eq {start : Nat} (h : start < ls.length) (last : Nat) :
    blockHasExit ls start last = some (Rule.blockHasExit ls start last) := by
  rw [blockHasExit, Rule.blockHasExit, codeAt_of_lt h, List.getElem?_eq_getElem h, linesHaveExit_eq]
  simp only [Option.bind_eq_bind, Option.bind_some]
  split
  next hexit => simp [hexit]
  next hexit => simp [hexit]

theorem doWhile_eq {last : Nat} (h : last < ls.length) :
    doWhile ls last = some (doWhile? ls last) := by
  have htake : (ls.drop (last + 1)).take (min (last + 3) ls.length - (last + 1)) =
      (ls.drop (last + 1)).take 2 := by
    rw [List.take_eq_take_iff, List.length_drop]
    omega
  rw [doWhile, doWhile?, doTail?, codeAt_of_lt h, List.getElem?_eq_getElem h,
    find_positions _ (Nat.min_le_right _ _), htake, ← firstStatement?_eq]
  simp only [Option.bind_eq_bind, Option.bind_some]
  split
  · rw [Option.filter_some]
  · cases hfirst : firstStatement? (last + 1) ((ls.drop (last + 1)).take 2) with
    | none => rfl
    | some j =>
      have hj : j < ls.length := lt_of_firstStatement? (List.take_prefix _ _) hfirst
      simp only [statementAt_of_lt hj, List.getElem?_eq_getElem hj, Option.bind_some, Option.map_some,
        Option.filter_some]

theorem judgeLoop_eq {i : Nat} (h : i < ls.length) (t : Line) :
    judgeLoop ls i t = some (Rule.judgeLoop ls i t) := by
  rw [judgeLoop, Rule.judgeLoop, findBlock_eq h]
  split
  · rfl
  · cases hblock : findBlock? ls i with
    | none => simp only [Option.bind_eq_bind, Option.bind_some, statementEnd_eq, linesHaveExit_eq]
    | some block =>
      have hb := isBlock_of_findBlock? hblock
      simp only [Option.bind_eq_bind, Option.bind_some, blockHasExit_eq hb.start_lt]

theorem judgeDo_eq {i : Nat} (h : i < ls.length) : judgeDo ls i = some (Rule.judgeDo ls i) := by
  rw [judgeDo, Rule.judgeDo, findBlock_eq h]
  cases hblock : findBlock? ls i with
  | none => rfl
  | some block =>
    have hb := isBlock_of_findBlock? hblock
    simp only [Option.bind_eq_bind, Option.bind_some, doWhile_eq hb.last_lt]
    cases htail : doWhile? ls block.2 with
    | none => rfl
    | some tail => simp only [blockHasExit_eq hb.start_lt, Option.bind_some]

theorem judge_eq {i : Nat} (h : i < ls.length) : judge ls i = some (verdictAt ls i) := by
  rw [judge, verdictAt, Rule.judge, statementAt_of_lt h, List.getElem?_eq_getElem h, judgeDo_eq h]
  simp only [Option.bind_eq_bind, Option.bind_some, judgeLoop_eq h]
  split
  · rfl
  · split <;> rfl

/-- One iteration reads lines only, and is a step of the scan. -/
theorem step_eq {s : LoopScan} (h : s.pos < ls.length) : step ls s =
    some (s.next ls, !s.isCommented ls && (verdictAt ls s.pos).reported) := by
  rw [step, LoopScan.next, LoopScan.isCommented, getD_of_lt h, List.getElem?_eq_getElem h, judge_eq h]
  simp only [Option.bind_eq_bind, Option.bind_some]
  split
  next hcomment => simp [hcomment]
  next hcomment => simp [hcomment]

/-- The loop comes to the end if there are as many iterations as lines left. What it comes to is in order,
and it reports what the scan reports. -/
theorem exists_run {n : Nat} {s : LoopScan} (h : ls.length - s.pos ≤ n) :
    ∃ visits, run ls n s = some visits ∧ (visits.filter (·.2)).map (·.1) = s.reported ls ∧
      (visits.map (·.1)).Pairwise (· < ·) ∧ ∀ v ∈ visits, s.pos ≤ v.1 ∧ v.1 < ls.length := by
  induction n generalizing s with
  | zero =>
    have hend : ls.length ≤ s.pos := by omega
    rw [run, if_neg (Nat.not_lt.mpr hend), LoopScan.reported_of_length_le hend]
    exact ⟨[], rfl, rfl, .nil, fun v hv => absurd hv List.not_mem_nil⟩
  | succ n ih =>
    by_cases hpos : s.pos < ls.length
    · have hforward := LoopScan.pos_lt_next ls s
      obtain ⟨visits, hrun, hreported, horder, hrange⟩ := ih (s := s.next ls) (by omega)
      rw [run, if_pos hpos, step_eq hpos, LoopScan.reported_step hpos, ← hreported]
      simp only [Option.bind_eq_bind, Option.bind_some, hrun]
      refine ⟨_, rfl, ?_, ?_, ?_⟩
      · rw [List.filter_cons]
        cases s.isCommented ls <;> cases (verdictAt ls s.pos).reported <;> rfl
      · refine List.pairwise_cons.mpr ⟨fun i hi => ?_, horder⟩
        obtain ⟨v, hv, rfl⟩ := List.mem_map.mp hi
        exact Nat.lt_of_lt_of_le hforward (hrange v hv).1
      · intro v hv
        rcases List.mem_cons.mp hv with rfl | hv
        · exact ⟨Nat.le_refl _, hpos⟩
        · exact ⟨Nat.le_of_lt (Nat.lt_of_lt_of_le hforward (hrange v hv).1), (hrange v hv).2⟩
    · have hend := Nat.le_of_not_lt hpos
      rw [run, if_neg hpos, LoopScan.reported_of_length_le hend]
      exact ⟨[], rfl, rfl, .nil, fun v hv => absurd hv List.not_mem_nil⟩

/-- The line of the `while` that closes a `do` loop whose block ends at a position, else that position. -/
def tailAt (ls : List Line) (last : Nat) : Nat := ((doWhile? ls last).map (·.1)).getD last

theorem isTail_tailAt {last : Nat} (h : last < ls.length) : IsTail ls last (tailAt ls last) := by
  rw [tailAt]
  cases htail : doWhile? ls last with
  | none => exact isTail_self h
  | some tail => exact isTail_of_doWhile? h htail

/-- **Reads.** The loop ends within as many iterations as there are lines, reads lines only, and reports
what the rule reports. Each iteration stands below the one before it, and a block that is found from there
lies among the lines, as does the `while` that closes it. -/
theorem run_staysInside (ls : List Line) :
    (∃ visits, run ls ls.length .start = some visits ∧
      (visits.filter (·.2)).map (·.1) = infiniteLoops ls 0 false 0 ls ∧
      (visits.map (·.1)).Pairwise (· < ·) ∧
      ∀ v ∈ visits, v.1 < ls.length ∧ ∀ start last, findBlock? ls v.1 = some (start, last) →
        IsBlock ls v.1 start last ∧ IsTail ls last (tailAt ls last)) ∧
    (∀ start, statementEnd ls start = some (Rule.statementEnd ls start)) ∧
    ∀ first last, linesHaveExit ls first last = some (Rule.linesHaveExit ls first last) := by
  obtain ⟨visits, hrun, hreported, horder, hrange⟩ : ∃ visits, run ls ls.length .start = some visits ∧ _ :=
    exists_run (Nat.le_refl _)
  refine ⟨⟨visits, hrun, hreported, horder, fun v hv => ⟨(hrange v hv).2, ?_⟩⟩, statementEnd_eq,
    linesHaveExit_eq⟩
  intro start last hblock
  have hb := isBlock_of_findBlock? hblock
  exact ⟨hb, isTail_tailAt hb.last_lt⟩

end ByPosition

end JavaReview.Rule
