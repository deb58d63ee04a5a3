import JavaReview.Rule.InfiniteLoop

/-!
The blocks that the scan for infinite loops finds, and what it makes of them. A block lies among the
lines: it starts at its header or after blank lines, and ends at a line (`IsBlock`). So does the `while`
of a `do` loop (`IsTail`). What a verdict can be is said once, by cases on the form of the loop
(`LoopCase`); in each of them the scan goes on below the header and at most past the last line.
-/

namespace JavaReview.Rule

open Text

/-! ## Lines by position -/

section Positions

variable (ls : List Line) (i j : Nat)

theorem statementAt_drop : statementAt (ls.drop i) j = statementAt ls (i + j) := by
  rw [statementAt, statementAt, List.getElem?_drop]

theorem statementAt_eq_trim : statementAt ls i = trim (codeAt ls i) := rfl

end Positions

variable {ls : List Line}

theorem getD_of_lt {i : Nat} (h : i < ls.length) : ls[i]?.getD [] = ls[i] := by
  rw [List.getElem?_eq_getElem h]
  rfl

theorem codeAt_of_lt {i : Nat} (h : i < ls.length) : codeAt ls i = Line.code ls[i] := by
  rw [codeAt, getD_of_lt h]

theorem statementAt_of_lt {i : Nat} (h : i < ls.length) : statementAt ls i = Line.statement ls[i] := by
  rw [statementAt, getD_of_lt h]

theorem codeAt_of_length_le {i : Nat} (h : ls.length ≤ i) : codeAt ls i = [] := by
  rw [codeAt, List.getElem?_eq_none h]
  rfl

theorem statementAt_of_length_le {i : Nat} (h : ls.length ≤ i) : statementAt ls i = [] := by
  rw [statementAt_eq_trim, codeAt_of_length_le h]
  rfl

theorem statementAt_take {n i : Nat} (h : i < n) : statementAt (ls.take n) i = statementAt ls i := by
  rw [statementAt, statementAt, List.getElem?_take_of_lt h]

/-- The first line with a statement is the one below blank lines only. -/
theorem exists_of_firstStatement? {i j : Nat} (h : firstStatement? i ls = some j) :
    ∃ n < ls.length, j = i + n ∧ statementAt ls n ≠ [] ∧ ∀ m < n, statementAt ls m = [] := by
  induction ls generalizing i with
  | nil => cases h
  | cons l ls ih =>
    rw [firstStatement?] at h
    split at h
    next hblank =>
      obtain ⟨n, hn, rfl, hstatement, hbefore⟩ := ih h
      refine ⟨n + 1, Nat.succ_lt_succ hn, by omega, hstatement, ?_⟩
      intro m hm
      cases m with
      | zero => exact List.isEmpty_iff.mp hblank
      | succ m => exact hbefore m (Nat.lt_of_succ_lt_succ hm)
    next hfull =>
      cases h
      exact ⟨0, Nat.succ_pos _, rfl, fun hnil => hfull (List.isEmpty_iff.mpr hnil),
        fun m hm => absurd hm (Nat.not_lt_zero m)⟩

theorem firstStatement?_bounds {i j : Nat} (h : firstStatement? i ls = some j) :
    i ≤ j ∧ j < i + ls.length := by
  obtain ⟨n, hn, rfl, -⟩ := exists_of_firstStatement? h
  omega

/-- A statement that is looked for from a position on, in some lines or all, is found on a line. -/
theorem lt_of_firstStatement? {part : List Line} {i j : Nat} (hpart : part <+: ls.drop i)
    (h : firstStatement? i part = some j) : j < ls.length := by
  have hbounds := firstStatement?_bounds h
  have hlength := hpart.length_le
  rw [List.length_drop] at hlength
  omega

/-! ## Blocks -/

/-- A block of the header at a position, from the line of its opening brace to its last line. -/
structure IsBlock (ls : List Line) (header start last : Nat) : Prop where
  header_le : header ≤ start
  start_le : start ≤ last
  last_lt : last < ls.length
  /-- Only blank lines stand between a header and the brace below it. -/
  blank : ∀ k, header < k → k < start → statementAt ls k = []

theorem IsBlock.header_le_last {header start last : Nat} (h : IsBlock ls header start last) :
    header ≤ last := Nat.le_trans h.header_le h.start_le

theorem IsBlock.start_lt {header start last : Nat} (h : IsBlock ls header start last) :
    start < ls.length := Nat.lt_of_le_of_lt h.start_le h.last_lt

theorem IsBlock.start_le_of_statement {header start last k : Nat} (h : IsBlock ls header start last)
    (hlt : header < k) (hk : statementAt ls k ≠ []) : start ≤ k :=
  Nat.le_of_not_lt fun hstart => hk (h.blank k hlt hstart)

theorem blockOpen?_cases {header start : Nat} (h : blockOpen? ls header = some start) :
    (start = header ∧ header < ls.length) ∨
      (header < start ∧ start < ls.length ∧ ∀ k, header < k → k < start → statementAt ls k = []) := by
  rw [blockOpen?] at h
  split at h
  next hbrace =>
    cases h
    refine .inl ⟨rfl, Nat.lt_of_not_le fun hout => ?_⟩
    rw [codeAt_of_length_le hout] at hbrace
    cases hbrace
  next =>
    split at h
    next => cases h
    next j hj =>
      split at h
      · cases h
        obtain ⟨n, hn, rfl, -, hbefore⟩ := exists_of_firstStatement? hj
        rw [List.length_drop] at hn
        refine .inr ⟨by omega, by omega, ?_⟩
        intro k hk hlt
        have hblank := hbefore (k - (header + 1)) (by omega)
        rwa [statementAt_drop, Nat.add_sub_cancel' hk] at hblank
      · cases h

theorem blockEnd_bounds (balance : Int) (i : Nat) (h : ls ≠ []) :
    i ≤ blockEnd balance i ls ∧ blockEnd balance i ls < i + ls.length := by
  induction ls generalizing balance i with
  | nil => exact absurd rfl h
  | cons l ls ih =>
    rw [blockEnd, List.length_cons]
    split
    · omega
    · cases ls with
      | nil =>
        -- A block that is not closed ends at the last line.
        rw [blockEnd]
        exact ⟨by omega, by simp⟩
      | cons l' ls =>
        obtain ⟨hge, hlt⟩ := ih (balance + l.code.braceDelta) (i + 1) (List.cons_ne_nil _ _)
        exact ⟨by omega, by omega⟩

theorem isBlock_of_findBlock? {header start last : Nat}
    (h : findBlock? ls header = some (start, last)) : IsBlock ls header start last := by
  obtain ⟨o, hopen, hpair⟩ := Option.map_eq_some_iff.mp h
  cases hpair
  have hlt : start < ls.length := by
    rcases blockOpen?_cases hopen with ⟨rfl, hlt⟩ | ⟨-, hlt, -⟩ <;> exact hlt
  have hne : ls.drop start ≠ [] := fun hnil => by
    rw [List.drop_eq_nil_iff] at hnil
    omega
  obtain ⟨hge, hend⟩ := blockEnd_bounds 0 start hne
  rw [List.length_drop] at hend
  rcases blockOpen?_cases hopen with ⟨rfl, -⟩ | ⟨hheader, -, hblank⟩
  · exact ⟨Nat.le_refl _, hge, by omega, fun k hk hk' => by omega⟩
  · exact ⟨Nat.le_of_lt hheader, hge, by omega, hblank⟩

/-! ## The end of a do loop -/

/-- The `while` that closes a `do` loop whose block ends at a position, on that line or below it. -/
structure IsTail (ls : List Line) (last pos : Nat) : Prop where
  last_le : last ≤ pos
  le_last : pos ≤ last + 2
  lt_length : pos < ls.length
  /-- Only blank lines stand between a block and the `while` below it. -/
  blank : ∀ k, last < k → k < pos → statementAt ls k = []

theorem isTail_self {last : Nat} (h : last < ls.length) : IsTail ls last last :=
  ⟨Nat.le_refl _, by omega, h, fun k hk hk' => by omega⟩

theorem isTail_of_doTail? {last j : Nat} {t : Line} (hlast : last < ls.length)
    (h : doTail? ls last = some (j, t)) : IsTail ls last j := by
  rw [doTail?] at h
  split at h
  · cases h
    exact isTail_self hlast
  · obtain ⟨k, hk, hpair⟩ := Option.map_eq_some_iff.mp h
    cases hpair
    obtain ⟨n, hn, rfl, -, hbefore⟩ := exists_of_firstStatement? hk
    rw [List.length_take, List.length_drop] at hn
    refine ⟨by omega, by omega, by omega, ?_⟩
    intro k hk hlt
    have hblank := hbefore (k - (last + 1)) (by omega)
    rwa [statementAt_take (by omega), statementAt_drop, Nat.add_sub_cancel' hk] at hblank

theorem isTail_of_doWhile? {last j : Nat} {t : Line} (hlast : last < ls.length)
    (h : doWhile? ls last = some (j, t)) : IsTail ls last j :=
  isTail_of_doTail? hlast (Option.eq_some_of_filter_eq_some h)

/-! ## Verdicts -/

/-- What the scan makes of a statement at a position, by the form of the loop that it starts. -/
inductive LoopCase (ls : List Line) (i : Nat) (t : Line) : LoopVerdict → Prop
  | noBody : isUnconditional t = true → hasNoBody t = true → LoopCase ls i t ⟨true, i + 1⟩
  | braceless : isUnconditional t = true → hasNoBody t = false → findBlock? ls i = none →
      LoopCase ls i t ⟨!linesHaveExit ls (i + 1) (statementEnd ls (i + 1)), i + 1⟩
  | block {start last : Nat} : isUnconditional t = true → hasNoBody t = false →
      findBlock? ls i = some (start, last) →
      LoopCase ls i t ⟨!blockHasExit ls start last, last + 1⟩
  | doBraceless : isUnconditional t = false → isDoHeader t = true → findBlock? ls i = none →
      LoopCase ls i t ⟨false, i + 1⟩
  | doAlone {start last : Nat} : isUnconditional t = false → isDoHeader t = true →
      findBlock? ls i = some (start, last) → doWhile? ls last = none →
      LoopCase ls i t ⟨false, last + 1⟩
  | doWhile {start last j : Nat} {u : Line} : isUnconditional t = false → isDoHeader t = true →
      findBlock? ls i = some (start, last) → doWhile? ls last = some (j, u) →
      LoopCase ls i t ⟨isUnconditionalTail u && !blockHasExit ls start last, j + 1⟩
  | other : isUnconditional t = false → isDoHeader t = false → LoopCase ls i t ⟨false, i + 1⟩

theorem judge_cases (ls : List Line) (i : Nat) (t : Line) : LoopCase ls i t (judge ls i t) := by
  cases hloop : isUnconditional t with
  | true =>
    simp only [judge, hloop, judgeLoop, if_true]
    cases hbody : hasNoBody t with
    | true => exact .noBody hloop hbody
    | false =>
      simp only [Bool.false_eq_true, if_false]
      split
      next hblock => exact .braceless hloop hbody hblock
      next hblock => exact .block hloop hbody hblock
  | false =>
    cases hdo : isDoHeader t with
    | true =>
      simp only [judge, hloop, hdo, judgeDo, Bool.false_eq_true, if_false, if_true]
      split
      next hblock => exact .doBraceless hloop hdo hblock
      next hblock =>
        split
        next htail => exact .doAlone hloop hdo hblock htail
        next htail => exact .doWhile hloop hdo hblock htail
    | false =>
      simp only [judge, hloop, hdo, Bool.false_eq_true, if_false]
      exact .other hloop hdo

namespace LoopCase

variable {i : Nat} {t : Line} {v : LoopVerdict}

/-- The cases exclude each other. -/
theorem judge_eq (h : LoopCase ls i t v) : judge ls i t = v := by
  cases h with
  | noBody hloop hbody => simp [judge, judgeLoop, hloop, hbody]
  | braceless hloop hbody hblock | block hloop hbody hblock =>
    simp [judge, judgeLoop, hloop, hbody, hblock]
  | doBraceless hloop hdo hblock => simp [judge, judgeDo, hloop, hdo, hblock]
  | doAlone hloop hdo hblock htail | doWhile hloop hdo hblock htail =>
    simp [judge, judgeDo, hloop, hdo, hblock, htail]
  | other hloop hdo => simp [judge, hloop, hdo]

theorem lt_resume (h : LoopCase ls i t v) : i < v.resume := by
  cases h with
  | noBody | braceless | doBraceless | other => exact Nat.lt_succ_self i
  | block _ _ hblock | doAlone _ _ hblock _ =>
    have hb := isBlock_of_findBlock? hblock
    exact Nat.lt_succ_of_le hb.header_le_last
  | doWhile _ _ hblock htail =>
    have hb := isBlock_of_findBlock? hblock
    have ht := isTail_of_doWhile? hb.last_lt htail
    exact Nat.lt_succ_of_le (Nat.le_trans hb.header_le_last ht.last_le)

theorem resume_le (h : LoopCase ls i t v) (hi : i < ls.length) : v.resume ≤ ls.length := by
  cases h with
  | noBody | braceless | doBraceless | other => exact hi
  | block _ _ hblock | doAlone _ _ hblock _ => exact (isBlock_of_findBlock? hblock).last_lt
  | doWhile _ _ hblock htail =>
    exact (isTail_of_doWhile? (isBlock_of_findBlock? hblock).last_lt htail).lt_length

end LoopCase

end JavaReview.Rule
