import JavaReview.Proofs.Rule.LoopScan

/-!
What a verdict on a loop depends on. Lines above the header do not matter: below other lines the verdict is
the same, further down (`verdictAt_append_right`). Of the lines below it only those up to the end of the
block do, and of the lines below the block those up to the next statement: whatever stands below these, the
same block and the same `while` are found (`findBlock?_append_of_lt`, `doWhile?_append_left`).
-/

namespace JavaReview.Rule

open Text

/-! ## Lines below others -/

section Below

variable (p q : List Line) (i : Nat)

theorem codeAt_append_right : codeAt (p ++ q) (p.length + i) = codeAt q i := by
  rw [codeAt, codeAt, List.getElem?_append_right (Nat.le_add_right _ _), Nat.add_sub_cancel_left]

theorem statementAt_append_right : statementAt (p ++ q) (p.length + i) = statementAt q i := by
  rw [statementAt_eq_trim, statementAt_eq_trim, codeAt_append_right]

theorem drop_append_right (k : Nat) : (p ++ q).drop (p.length + i + k) = q.drop (i + k) := by
  rw [Nat.add_assoc, List.drop_length_add_append]

end Below

theorem firstStatement?_add (n i : Nat) (ls : List Line) :
    firstStatement? (n + i) ls = (firstStatement? i ls).map (n + ·) := by
  induction ls generalizing i with
  | nil => rfl
  | cons l ls ih =>
    rw [firstStatement?, firstStatement?, Nat.add_assoc, ih]
    split <;> rfl

theorem statementEnd?_add (n i : Nat) (ls : List Line) :
    statementEnd? (n + i) ls = (statementEnd? i ls).map (n + ·) := by
  induction ls generalizing i with
  | nil => rfl
  | cons l ls ih =>
    rw [statementEnd?, statementEnd?, Nat.add_assoc, ih]
    split <;> rfl

theorem blockEnd_add (n : Nat) (balance : Int) {i : Nat} {ls : List Line} (h : ls ≠ []) :
    blockEnd balance (n + i) ls = n + blockEnd balance i ls := by
  induction ls generalizing balance i with
  | nil => exact absurd rfl h
  | cons l ls ih =>
    rw [blockEnd, blockEnd]
    split
    · rfl
    · cases ls with
      | nil => rfl
      | cons l' ls =>
        rw [Nat.add_assoc]
        exact ih _ (List.cons_ne_nil _ _)

/-- A verdict on the same lines below others. -/
def LoopVerdict.below (v : LoopVerdict) (n : Nat) : LoopVerdict := ⟨v.reported, n + v.resume⟩

section Below

variable (p : List Line) {q : List Line} (i : Nat)

theorem blockOpen?_append_right :
    blockOpen? (p ++ q) (p.length + i) = (blockOpen? q i).map (p.length + ·) := by
  rw [blockOpen?, blockOpen?, codeAt_append_right, drop_append_right, Nat.add_assoc, firstStatement?_add]
  split
  · rfl
  · cases firstStatement? (i + 1) (q.drop (i + 1)) with
    | none => rfl
    | some j =>
      simp only [Option.map_some, statementAt_append_right]
      split <;> rfl

theorem findBlock?_append_right : findBlock? (p ++ q) (p.length + i) =
    (findBlock? q i).map fun b => (p.length + b.1, p.length + b.2) := by
  rw [findBlock?, findBlock?, blockOpen?_append_right]
  cases hopen : blockOpen? q i with
  | none => rfl
  | some start =>
    have hne : q.drop start ≠ [] := by
      rw [Ne, List.drop_eq_nil_iff]
      rcases blockOpen?_cases hopen with ⟨rfl, hlt⟩ | ⟨-, hlt, -⟩ <;> omega
    simp only [Option.map_some, List.drop_length_add_append, blockEnd_add _ _ hne]

theorem linesHaveExit_append_right (first last : Nat) :
    linesHaveExit (p ++ q) (p.length + first) (p.length + last) = linesHaveExit q first last := by
  have hsub : p.length + last + 1 - (p.length + first) = last + 1 - first := by omega
  rw [linesHaveExit, linesHaveExit, linesBetween, linesBetween, List.drop_length_add_append, hsub]

theorem blockHasExit_append_right (start last : Nat) :
    blockHasExit (p ++ q) (p.length + start) (p.length + last) = blockHasExit q start last := by
  rw [blockHasExit, blockHasExit, codeAt_append_right, Nat.add_assoc, linesHaveExit_append_right]

theorem statementEnd_append_right (hq : q ≠ []) :
    statementEnd (p ++ q) (p.length + i) = p.length + statementEnd q i := by
  have hlength := List.length_pos_iff.mpr hq
  rw [statementEnd, statementEnd, List.drop_length_add_append, statementEnd?_add, List.length_append]
  cases statementEnd? i (q.drop i) with
  | none => simp only [Option.map_none, Option.getD_none]; omega
  | some j => rfl

theorem doTail?_append_right (last : Nat) : doTail? (p ++ q) (p.length + last) =
    (doTail? q last).map fun e => (p.length + e.1, e.2) := by
  rw [doTail?, doTail?, codeAt_append_right, drop_append_right, Nat.add_assoc, firstStatement?_add]
  split
  · rfl
  · cases firstStatement? (last + 1) ((q.drop (last + 1)).take 2) with
    | none => rfl
    | some j => simp only [Option.map_some, statementAt_append_right]

theorem doWhile?_append_right (last : Nat) : doWhile? (p ++ q) (p.length + last) =
    (doWhile? q last).map fun e => (p.length + e.1, e.2) := by
  rw [doWhile?, doWhile?, doTail?_append_right, Option.filter_map]
  rfl

/-- Lines above do not matter for a verdict. -/
theorem LoopCase.append_right (hq : q ≠ []) {t : Line} {v : LoopVerdict} (h : LoopCase q i t v) :
    LoopCase (p ++ q) (p.length + i) t (v.below p.length) := by
  have hfind := findBlock?_append_right p (q := q) i
  cases h with
  | noBody hloop hbody => exact .noBody hloop hbody
  | braceless hloop hbody hblock =>
    rw [hblock] at hfind
    have hcase := LoopCase.braceless (t := t) hloop hbody hfind
    rwa [Nat.add_assoc, statementEnd_append_right _ _ hq, linesHaveExit_append_right] at hcase
  | block hloop hbody hblock =>
    rw [hblock] at hfind
    have hcase := LoopCase.block (t := t) hloop hbody hfind
    rwa [blockHasExit_append_right] at hcase
  | doBraceless hloop hdo hblock =>
    rw [hblock] at hfind
    exact .doBraceless hloop hdo hfind
  | @doAlone start last hloop hdo hblock htail =>
    have htail' := doWhile?_append_right p (q := q) last
    rw [hblock] at hfind
    rw [htail] at htail'
    exact .doAlone hloop hdo hfind htail'
  | @doWhile start last j u hloop hdo hblock htail =>
    have htail' := doWhile?_append_right p (q := q) last
    rw [hblock] at hfind
    rw [htail] at htail'
    have hcase := LoopCase.doWhile (t := t) hloop hdo hfind htail'
    rwa [blockHasExit_append_right] at hcase
  | other hloop hdo => exact .other hloop hdo

theorem verdictAt_append_right (hq : q ≠ []) :
    verdictAt (p ++ q) (p.length + i) = (verdictAt q i).below p.length := by
  rw [verdictAt, statementAt_append_right]
  exact ((verdictAt_cases q i).append_right p i hq).judge_eq

end Below

/-! ## Lines above others -/

theorem firstStatement?_append (i : Nat) (p q : List Line) : firstStatement? i (p ++ q) =
    (firstStatement? i p).or (firstStatement? (i + p.length) q) := by
  induction p generalizing i with
  | nil => rfl
  | cons l p ih =>
    rw [List.cons_append, firstStatement?, firstStatement?, ih, List.length_cons]
    split
    · rw [Nat.add_right_comm, Nat.add_assoc]
    · rfl

theorem statementEnd?_append (i : Nat) (p q : List Line) : statementEnd? i (p ++ q) =
    (statementEnd? i p).or (statementEnd? (i + p.length) q) := by
  induction p generalizing i with
  | nil => rfl
  | cons l p ih =>
    rw [List.cons_append, statementEnd?, statementEnd?, ih, List.length_cons]
    split
    · rfl
    · rw [Nat.add_right_comm, Nat.add_assoc]

/-- There is a first statement if there is any. -/
theorem exists_firstStatement? {i k : Nat} {ls : List Line} (h : statementAt ls k ≠ []) :
    ∃ j, firstStatement? i ls = some j := by
  induction ls generalizing i k with
  | nil => exact absurd (statementAt_of_length_le (Nat.zero_le k)) h
  | cons l ls ih =>
    rw [firstStatement?]
    split
    next hblank =>
      cases k with
      | zero => exact absurd (List.isEmpty_iff.mp hblank) h
      | succ k => exact ih (k := k) h
    next => exact ⟨i, rfl⟩

/-- A block that ends among some lines does so whatever stands below them. -/
theorem blockEnd_append {balance : Int} {i : Nat} {p q : List Line} (q' : List Line) (hq : q ≠ [])
    (h : blockEnd balance i (p ++ q) < i + p.length) :
    blockEnd balance i (p ++ q') = blockEnd balance i (p ++ q) := by
  induction p generalizing balance i with
  | nil => exact absurd h (Nat.not_lt.mpr (blockEnd_bounds balance i hq).1)
  | cons l p ih =>
    rw [List.cons_append, blockEnd] at h
    rw [List.cons_append, List.cons_append, blockEnd, blockEnd]
    split
    · rfl
    next hopen =>
      rw [if_neg hopen, List.length_cons] at h
      exact ih (by omega)

section Above

variable {p : List Line} (q : List Line) {i : Nat}

theorem codeAt_append_left (hi : i < p.length) : codeAt (p ++ q) i = codeAt p i := by
  rw [codeAt, codeAt, List.getElem?_append_left hi]

theorem statementAt_append_left (hi : i < p.length) : statementAt (p ++ q) i = statementAt p i := by
  rw [statementAt_eq_trim, statementAt_eq_trim, codeAt_append_left q hi]

theorem linesHaveExit_append_left (first : Nat) {last : Nat} (h : last < p.length) :
    linesHaveExit (p ++ q) first last = linesHaveExit p first last := by
  have hlines : linesBetween (p ++ q) first last = linesBetween p first last := by
    rw [linesBetween, linesBetween]
    by_cases hfirst : first ≤ p.length
    · rw [List.drop_append_of_le_length hfirst, List.take_append_of_le_length]
      rw [List.length_drop]
      omega
    · rw [show last + 1 - first = 0 by omega, List.take_zero, List.take_zero]
  rw [linesHaveExit, linesHaveExit, hlines]

theorem blockHasExit_append_left {start last : Nat} (hle : start ≤ last) (h : last < p.length) :
    blockHasExit (p ++ q) start last = blockHasExit p start last := by
  rw [blockHasExit, blockHasExit, codeAt_append_left q (Nat.lt_of_le_of_lt hle h),
    linesHaveExit_append_left q _ h]

end Above

/-- A block that starts among some lines does so whatever stands below them. -/
theorem blockOpen?_append_of_lt {p q : List Line} (q' : List Line) {i start : Nat}
    (h : blockOpen? (p ++ q) i = some start) (hlt : start < p.length) :
    blockOpen? (p ++ q') i = some start := by
  have hi : i < p.length := by
    rcases blockOpen?_cases h with ⟨rfl, -⟩ | ⟨hheader, -⟩ <;> omega
  rw [blockOpen?, codeAt_append_left _ hi, List.drop_append_of_le_length hi, firstStatement?_append] at h ⊢
  split at h
  next hbrace => rwa [if_pos hbrace]
  next hbrace =>
    rw [if_neg hbrace]
    cases hfirst : firstStatement? (i + 1) (p.drop (i + 1)) with
    | some j =>
      have hj : j < p.length := lt_of_firstStatement? List.prefix_rfl hfirst
      simp only [hfirst, Option.some_or, statementAt_append_left _ hj] at h ⊢
      exact h
    | none =>
      rw [hfirst, Option.none_or] at h
      split at h
      next => cases h
      next j hj =>
        have hbelow := (firstStatement?_bounds hj).1
        rw [List.length_drop] at hbelow
        split at h <;> cases h
        omega

theorem findBlock?_append_of_lt {p q : List Line} (q' : List Line) (hq : q ≠ []) {i start last : Nat}
    (h : findBlock? (p ++ q) i = some (start, last)) (hlast : last < p.length) :
    findBlock? (p ++ q') i = some (start, last) := by
  have hlt : start < p.length := (isBlock_of_findBlock? h).start_le.trans_lt hlast
  obtain ⟨o, hopen, hpair⟩ := Option.map_eq_some_iff.mp h
  cases hpair
  rw [findBlock?, blockOpen?_append_of_lt q' hopen hlt, Option.map_some,
    List.drop_append_of_le_length hlt.le, List.drop_append_of_le_length hlt.le]
  rw [List.drop_append_of_le_length hlt.le] at hlast
  rw [blockEnd_append q' hq]
  rw [List.length_drop]
  omega

section Above

-- A line with a statement bounds how far the scan looks from above it.
variable {p : List Line} (q : List Line) {i k : Nat} (hk : k < p.length)
  (hstatement : statementAt p k ≠ [])

include hk hstatement

theorem doWhile?_append_left {last : Nat} (hlast : last < k) :
    doWhile? (p ++ q) last = doWhile? p last := by
  have hfirst : firstStatement? (last + 1) (((p ++ q).drop (last + 1)).take 2) =
      firstStatement? (last + 1) ((p.drop (last + 1)).take 2) := by
    rw [List.drop_append_of_le_length (by omega), List.take_append, firstStatement?_append]
    by_cases htwo : 2 ≤ (p.drop (last + 1)).length
    · rw [Nat.sub_eq_zero_of_le htwo, List.take_zero, firstStatement?, Option.or_none]
    · -- The line with the statement is the only one.
      rw [List.length_drop] at htwo
      have hbelow : statementAt ((p.drop (last + 1)).take 2) (k - (last + 1)) ≠ [] := by
        rwa [statementAt_take (by omega), statementAt_drop, Nat.add_sub_cancel' hlast]
      obtain ⟨j, hj⟩ := exists_firstStatement? (i := last + 1) hbelow
      rw [hj]
      rfl
  rw [doWhile?, doWhile?, doTail?, doTail?, codeAt_append_left q (hlast.trans hk), hfirst]
  split
  · rfl
  · cases hj : firstStatement? (last + 1) ((p.drop (last + 1)).take 2) with
    | none => rfl
    | some j =>
      have hlt : j < p.length := lt_of_firstStatement? (List.take_prefix _ _) hj
      rw [Option.map_some, Option.map_some, statementAt_append_left q hlt]

theorem findBlock?_append_none (q' : List Line) (hi : i < k) (h : findBlock? (p ++ q) i = none) :
    findBlock? (p ++ q') i = none := by
  rw [findBlock?, Option.map_eq_none_iff] at h ⊢
  cases hopen : blockOpen? (p ++ q') i with
  | none => rfl
  | some start =>
    have hlt : start < p.length := by
      rcases blockOpen?_cases hopen with ⟨rfl, -⟩ | ⟨-, -, hblank⟩
      · exact hi.trans hk
      · refine Nat.lt_of_not_le fun hle => hstatement ?_
        rw [← statementAt_append_left q' hk]
        exact hblank k hi (hk.trans_le hle)
    rw [blockOpen?_append_of_lt q hopen hlt] at h
    cases h

end Above

end JavaReview.Rule
