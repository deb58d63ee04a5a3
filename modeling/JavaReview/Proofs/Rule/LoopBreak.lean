import JavaReview.Proofs.Rule.LoopShift

/-!
What a `break;` does to a loop that is reported. Put below the brace that opens the block, it is an exit of
the loop. It does not change how the scan comes to the loop (`CutLoop.after_above`), and the scan goes on below
the loop as before, one line further down (`CutLoop.after_below`).
-/

namespace JavaReview.Rule

/-- The line that is suggested for a loop without an exit. -/
def breakLine : Line := "break;".toList

theorem isLoopExit_breakLine : isLoopExit breakLine.statement = true := by decide

theorem braceDelta_breakLine : breakLine.code.braceDelta = 0 := by decide

/-- A text that is cut below the brace of a loop that is reported and has more lines than that. -/
structure CutLoop (p q : List Line) (header start last : Nat) : Prop where
  judged : Judges (p ++ q) header
  reported : (verdictAt (p ++ q) header).reported = true
  body : hasNoBody (statementAt (p ++ q) header) = false
  block : findBlock? (p ++ q) header = some (start, last)
  start_lt : start < last
  cut : p.length = start + 1

/-! ## Exits -/

theorem linesHaveExit_of_le {ls : List Line} {first last i : Nat} (hfirst : first ≤ i) (hlast : i ≤ last)
    (h : isLoopExit (statementAt ls i) = true) : linesHaveExit ls first last = true := by
  have hi : i < ls.length := Nat.lt_of_not_le fun hle => by
    rw [statementAt_of_length_le hle] at h
    cases h
  refine List.any_eq_true.mpr ⟨ls[i], List.mem_iff_getElem?.mpr ⟨i - first, ?_⟩, ?_⟩
  · rw [linesBetween, List.getElem?_take_of_lt (by omega), List.getElem?_drop,
      Nat.add_sub_cancel' hfirst, List.getElem?_eq_getElem hi]
  · rwa [statementAt_of_lt hi] at h

theorem linesHaveExit_breakLine {p : List Line} (q : List Line) {first last : Nat}
    (hfirst : first ≤ p.length) (hlast : p.length ≤ last) :
    linesHaveExit (p ++ breakLine :: q) first last = true := by
  refine linesHaveExit_of_le hfirst hlast ?_
  rw [← Nat.add_zero p.length, statementAt_append_right]
  exact isLoopExit_breakLine

theorem lt_of_statementEnd? {i j : Nat} {ls : List Line} (h : statementEnd? i ls = some j) :
    j < i + ls.length := by
  induction ls generalizing i with
  | nil => cases h
  | cons l ls ih =>
    rw [statementEnd?] at h
    rw [List.length_cons]
    split at h
    · cases h
      omega
    · have := ih h
      omega

/-- A statement without braces that leaves its loop still does: it ends as before, or with the new line. -/
theorem linesHaveExit_statementEnd {p : List Line} (q : List Line) {i : Nat} (hi : i < p.length)
    (h : linesHaveExit (p ++ q) i (statementEnd (p ++ q) i) = true) :
    linesHaveExit (p ++ breakLine :: q) i (statementEnd (p ++ breakLine :: q) i) = true := by
  rw [statementEnd, List.drop_append_of_le_length hi.le, statementEnd?_append] at h ⊢
  cases hend : statementEnd? i (p.drop i) with
  | some j =>
    have hj := lt_of_statementEnd? hend
    rw [List.length_drop] at hj
    rw [hend] at h
    rw [Option.some_or, Option.getD_some, linesHaveExit_append_left _ _ (by omega)] at h ⊢
    exact h
  | none =>
    have hbreak : statementEnd? (i + (p.drop i).length) (breakLine :: q) = some p.length := by
      rw [List.length_drop, Nat.add_sub_cancel' hi.le]
      rfl
    rw [hbreak, Option.none_or, Option.getD_some]
    exact linesHaveExit_breakLine q hi.le (Nat.le_refl _)

/-! ## Lines below the new one -/

section Below

variable (p q : List Line)

theorem append_breakLine : p ++ breakLine :: q = (p ++ [breakLine]) ++ q :=
  List.append_cons p breakLine q

theorem length_append_breakLine (m : Nat) : p.length + m + 1 = (p ++ [breakLine]).length + m := by
  rw [List.length_append, List.length_singleton, Nat.add_right_comm]

variable {p q}

theorem getElem?_below {i : Nat} (h : p.length ≤ i) :
    (p ++ breakLine :: q)[i + 1]? = (p ++ q)[i]? := by
  obtain ⟨m, rfl⟩ := Nat.exists_eq_add_of_le h
  rw [append_breakLine, length_append_breakLine, List.getElem?_append_right (Nat.le_add_right _ _),
    List.getElem?_append_right (Nat.le_add_right _ _), Nat.add_sub_cancel_left, Nat.add_sub_cancel_left]

theorem doWhile?_below {last : Nat} (h : p.length ≤ last) : doWhile? (p ++ breakLine :: q) (last + 1) =
    (doWhile? (p ++ q) last).map fun e => (e.1 + 1, e.2) := by
  obtain ⟨m, rfl⟩ := Nat.exists_eq_add_of_le h
  rw [append_breakLine, length_append_breakLine, doWhile?_append_right, doWhile?_append_right,
    Option.map_map]
  congr 1
  funext e
  exact congrArg (·, e.2) (length_append_breakLine p e.1).symm

theorem verdictAt_below (hq : q ≠ []) {i : Nat} (hi : p.length ≤ i) :
    verdictAt (p ++ breakLine :: q) (i + 1) = (verdictAt (p ++ q) i).below 1 := by
  obtain ⟨m, rfl⟩ := Nat.exists_eq_add_of_le hi
  rw [append_breakLine, length_append_breakLine, verdictAt_append_right _ _ hq,
    verdictAt_append_right _ _ hq]
  simp only [LoopVerdict.below, ← length_append_breakLine, Nat.add_comm 1]

end Below

/-! ## Verdicts -/

namespace LoopCase

variable {ls : List Line} {i : Nat} {t : Line} {v : LoopVerdict}

theorem ne_nil_of_reported (h : LoopCase ls i t v) (hreported : v.reported = true) : t ≠ [] := by
  rintro rfl
  cases h with
  | noBody hloop | braceless hloop | block hloop => cases hloop
  | doWhile _ hdo => cases hdo
  | doBraceless | doAlone | other => cases hreported

/-- A loop that is reported and has a block and a body is of one of two forms. -/
theorem of_block {start last : Nat} (h : LoopCase ls i t v) (hreported : v.reported = true)
    (hbody : hasNoBody t = false) (hblock : findBlock? ls i = some (start, last)) :
    (isUnconditional t = true ∧ v.resume = last + 1) ∨
      (isUnconditional t = false ∧ isDoHeader t = true ∧
        ∃ j u, doWhile? ls last = some (j, u) ∧ v.resume = j + 1) := by
  cases h with
  | noBody _ hnone =>
    rw [hbody] at hnone
    cases hnone
  | braceless _ _ hnone =>
    rw [hblock] at hnone
    cases hnone
  | block hloop _ hsome =>
    rw [hblock] at hsome
    cases hsome
    exact .inl ⟨hloop, rfl⟩
  | doWhile hloop hdo hsome htail =>
    rw [hblock] at hsome
    cases hsome
    exact .inr ⟨hloop, hdo, _, _, htail, rfl⟩
  | doBraceless | doAlone | other => cases hreported

end LoopCase

namespace CutLoop

variable {p q : List Line} {header start last : Nat} (c : CutLoop p q header start last)

include c

theorem isBlock : IsBlock (p ++ q) header start last := isBlock_of_findBlock? c.block

theorem ne_nil : q ≠ [] := by
  rintro rfl
  have hlast := c.isBlock.last_lt
  rw [List.append_nil, c.cut] at hlast
  exact absurd c.start_lt (Nat.not_lt.mpr (Nat.lt_succ_iff.mp hlast))

theorem header_lt : header < p.length := by
  rw [c.cut]
  exact Nat.lt_succ_of_le c.isBlock.header_le

theorem statement_ne_nil : statementAt p header ≠ [] := by
  rw [← statementAt_append_left q c.header_lt]
  exact (verdictAt_cases (p ++ q) header).ne_nil_of_reported c.reported

theorem last_lt_resume : last < (verdictAt (p ++ q) header).resume := by
  rcases (verdictAt_cases (p ++ q) header).of_block c.reported c.body c.block with
    ⟨-, hresume⟩ | ⟨-, -, j, u, htail, hresume⟩
  · exact hresume ▸ Nat.lt_succ_self last
  · exact hresume ▸ Nat.lt_succ_of_le (isTail_of_doWhile? c.isBlock.last_lt htail).last_le

/-- The block of the loop has one line more. -/
theorem findBlock?_header : findBlock? (p ++ breakLine :: q) header = some (start, last + 1) := by
  obtain ⟨o, hopen, hpair⟩ := Option.map_eq_some_iff.mp c.block
  have hlt := c.start_lt
  have hcut := c.cut
  have hle : start ≤ p.length := by omega
  have hdrop : p.drop start = [p[start]] := by
    rw [List.drop_eq_getElem_cons (by omega), List.drop_eq_nil_of_le (by omega)]
  cases hpair
  rw [findBlock?, blockOpen?_append_of_lt _ hopen (by omega), Option.map_some,
    List.drop_append_of_le_length hle, List.drop_append_of_le_length hle, hdrop]
  rw [List.drop_append_of_le_length hle, hdrop] at hlt
  simp only [List.singleton_append] at hlt ⊢
  -- More braces are opened on the first line than closed, and none on the new one.
  rw [blockEnd] at hlt
  split at hlt
  · omega
  next hpositive =>
    rw [blockEnd, if_neg hpositive, blockEnd, braceDelta_breakLine, Int.add_zero, if_neg hpositive,
      blockEnd, if_neg hpositive, Nat.add_comm (start + 1) 1, blockEnd_add 1 _ c.ne_nil, Nat.add_comm 1]

/-- The loop is not reported any more, and the scan goes on below it. -/
theorem verdictAt_header :
    verdictAt (p ++ breakLine :: q) header = ⟨false, (verdictAt (p ++ q) header).resume + 1⟩ := by
  have hcut := c.cut
  have hlt := c.start_lt
  have hexit : blockHasExit (p ++ breakLine :: q) start (last + 1) = true := by
    rw [blockHasExit, linesHaveExit_breakLine q (by omega) (by omega), Bool.or_true]
  have hsame : statementAt (p ++ breakLine :: q) header = statementAt (p ++ q) header := by
    rw [statementAt_append_left _ c.header_lt, statementAt_append_left _ c.header_lt]
  rw [verdictAt, hsame]
  rcases (verdictAt_cases (p ++ q) header).of_block c.reported c.body c.block with
    ⟨hloop, hresume⟩ | ⟨hloop, hdo, j, u, htail, hresume⟩
  · rw [(LoopCase.block hloop c.body c.findBlock?_header).judge_eq, hexit, hresume]
    rfl
  · have htail' := doWhile?_below (q := q) (by omega : p.length ≤ last)
    rw [htail] at htail'
    rw [(LoopCase.doWhile hloop hdo c.findBlock?_header htail').judge_eq, hexit, hresume,
      Bool.not_true, Bool.and_false]

/-- Above the loop the scan goes the same way, and reports nothing new. -/
theorem verdictAt_above {i : Nat} (hi : i < header) (hresume : (verdictAt (p ++ q) i).resume ≤ header) :
    (verdictAt (p ++ breakLine :: q) i).resume = (verdictAt (p ++ q) i).resume ∧
      ((verdictAt (p ++ breakLine :: q) i).reported = true → (verdictAt (p ++ q) i).reported = true) := by
  have hk := c.header_lt
  have hne := c.statement_ne_nil
  have hsame : statementAt (p ++ breakLine :: q) i = statementAt (p ++ q) i := by
    rw [statementAt_append_left _ (hi.trans hk), statementAt_append_left _ (hi.trans hk)]
  have hnew {v : LoopVerdict} (h : LoopCase (p ++ breakLine :: q) i (statementAt (p ++ q) i) v) :
      verdictAt (p ++ breakLine :: q) i = v := by
    rw [verdictAt, hsame, h.judge_eq]
  have hcase := verdictAt_cases (p ++ q) i
  generalize verdictAt (p ++ q) i = v at hcase hresume ⊢
  -- A loop that ends above the header ends above the cut. Only the statement of a loop without braces may
  -- reach down to the new line, and then that is an exit of it.
  cases hcase with
  | noBody hloop hbody =>
    rw [hnew (.noBody hloop hbody)]
    exact ⟨rfl, id⟩
  | braceless hloop hbody hblock =>
    rw [hnew (.braceless hloop hbody (findBlock?_append_none q hk hne _ hi hblock))]
    refine ⟨rfl, fun h => ?_⟩
    rw [Bool.not_eq_true', Bool.eq_false_iff] at h ⊢
    exact fun hexit => h (linesHaveExit_statementEnd q (by omega) hexit)
  | @block start last hloop hbody hblock =>
    have hlast : last < p.length := Nat.lt_trans hresume hk
    rw [hnew (.block hloop hbody (findBlock?_append_of_lt _ c.ne_nil hblock hlast))]
    refine ⟨rfl, fun h => ?_⟩
    rwa [blockHasExit_append_left _ (isBlock_of_findBlock? hblock).start_le hlast] at h ⊢
  | doBraceless hloop hdo hblock =>
    rw [hnew (.doBraceless hloop hdo (findBlock?_append_none q hk hne _ hi hblock))]
    exact ⟨rfl, id⟩
  | @doAlone start last hloop hdo hblock htail =>
    have hlast : last < p.length := Nat.lt_trans hresume hk
    have htail' : doWhile? (p ++ breakLine :: q) last = none := by
      rwa [doWhile?_append_left _ hk hne hresume] at htail ⊢
    rw [hnew (.doAlone hloop hdo (findBlock?_append_of_lt _ c.ne_nil hblock hlast) htail')]
    exact ⟨rfl, id⟩
  | @doWhile start last j u hloop hdo hblock htail =>
    have hb := isBlock_of_findBlock? hblock
    have hlast : last < header :=
      Nat.lt_of_le_of_lt (isTail_of_doWhile? hb.last_lt htail).last_le hresume
    have htail' : doWhile? (p ++ breakLine :: q) last = some (j, u) := by
      rwa [doWhile?_append_left _ hk hne hlast] at htail ⊢
    have hblock' := findBlock?_append_of_lt (breakLine :: q) c.ne_nil hblock (hlast.trans hk)
    rw [hnew (.doWhile hloop hdo hblock' htail')]
    refine ⟨rfl, fun h => ?_⟩
    rwa [blockHasExit_append_left _ hb.start_le (hlast.trans hk)] at h ⊢
  | other hloop hdo =>
    rw [hnew (.other hloop hdo)]
    exact ⟨rfl, id⟩

end CutLoop

/-! ## The two scans -/

namespace LoopScan

variable {p q : List Line} {s : LoopScan}

/-- The scan one line further down. -/
def down (s : LoopScan) : LoopScan := ⟨s.pos + 1, s.comment⟩

theorem isCommented_above (h : s.pos < p.length) :
    s.isCommented (p ++ breakLine :: q) = s.isCommented (p ++ q) := by
  rw [isCommented, isCommented, List.getElem?_append_left h, List.getElem?_append_left h]

theorem isCommented_below (h : p.length ≤ s.pos) :
    s.down.isCommented (p ++ breakLine :: q) = s.isCommented (p ++ q) := by
  rw [isCommented, isCommented, down, getElem?_below h]

theorem next_below (hq : q ≠ []) (hs : p.length ≤ s.pos) :
    s.down.next (p ++ breakLine :: q) = (s.next (p ++ q)).down := by
  have hsame := isCommented_below (q := q) hs
  cases hcomment : s.isCommented (p ++ q) with
  | true =>
    rw [next_of_isCommented hcomment, next_of_isCommented (hsame.trans hcomment), down,
      getElem?_below hs]
    rfl
  | false =>
    rw [next_of_judged hcomment, next_of_judged (hsame.trans hcomment), down, verdictAt_below hq hs,
      LoopVerdict.below, Nat.add_comm]
    rfl

end LoopScan

namespace CutLoop

open LoopScan

variable {p q : List Line} {header start last m : Nat} (c : CutLoop p q header start last)
  (hm : (after (p ++ q) m).pos = header)

include c

theorem next_above {s : LoopScan} (hs : s.pos < header) (hnext : (s.next (p ++ q)).pos ≤ header) :
    s.next (p ++ breakLine :: q) = s.next (p ++ q) := by
  have hlt := hs.trans c.header_lt
  have hsame := isCommented_above (q := q) hlt
  cases hcomment : s.isCommented (p ++ q) with
  | true =>
    rw [next_of_isCommented hcomment, next_of_isCommented (hsame.trans hcomment),
      List.getElem?_append_left hlt, List.getElem?_append_left hlt]
  | false =>
    rw [next_of_judged hcomment] at hnext ⊢
    rw [next_of_judged (hsame.trans hcomment), (c.verdictAt_above hs hnext).1]

include hm

/-- Up to the loop the two scans are the same. -/
theorem after_above {n : Nat} (hn : n ≤ m) : after (p ++ breakLine :: q) n = after (p ++ q) n := by
  induction n with
  | zero => rfl
  | succ n ih =>
    have hlt : (after (p ++ q) n).pos < (after (p ++ q) m).pos := strictMono_after (p ++ q) hn
    rw [after_succ, after_succ, ih (Nat.le_of_succ_le hn)]
    exact c.next_above (hm ▸ hlt) (hm ▸ next_pos_le hlt)

/-- After the loop the second scan is one line further down. -/
theorem after_below {n : Nat} (hn : m < n) :
    after (p ++ breakLine :: q) n = (after (p ++ q) n).down ∧ p.length ≤ (after (p ++ q) n).pos := by
  induction n, hn using Nat.le_induction with
  | base =>
    have hcomment : (after (p ++ q) m).isCommented (p ++ q) = false := by
      obtain ⟨-, m', hm', hcomment⟩ := c.judged
      rwa [← (strictMono_after (p ++ q)).injective (hm'.trans hm.symm)]
    have hcomment' := (isCommented_above (q := q) (hm ▸ c.header_lt)).trans hcomment
    rw [after_succ, after_succ, c.after_above hm (Nat.le_refl m), next_of_judged hcomment,
      next_of_judged hcomment', hm, c.verdictAt_header, c.cut]
    exact ⟨rfl, c.start_lt.trans c.last_lt_resume⟩
  | succ n _ ih =>
    rw [after_succ, after_succ, ih.1, next_below c.ne_nil ih.2]
    exact ⟨rfl, ih.2.trans (pos_lt_next _ _).le⟩

omit hm

theorem judges_above {i : Nat} (hi : i ≤ header) :
    Judges (p ++ breakLine :: q) i ↔ Judges (p ++ q) i := by
  obtain ⟨-, m, hm, -⟩ := c.judged
  have hk := hi.trans_lt c.header_lt
  have hsame {n : Nat} (hn : n ≤ m) := c.after_above hm hn
  constructor
  · rintro ⟨-, n, hn, hcomment⟩
    have hnm : n ≤ m := by
      rwa [← (strictMono_after (p ++ breakLine :: q)).le_iff_le, hsame (Nat.le_refl m), hm, hn]
    rw [hsame hnm] at hn hcomment
    rw [isCommented_above (hn ▸ hk)] at hcomment
    exact ⟨by rw [List.length_append]; omega, n, hn, hcomment⟩
  · rintro ⟨-, n, hn, hcomment⟩
    have hnm : n ≤ m := by rwa [← (strictMono_after (p ++ q)).le_iff_le, hm, hn]
    rw [← isCommented_above (hn ▸ hk), ← hsame hnm] at hcomment
    exact ⟨by rw [List.length_append]; omega, n, by rw [hsame hnm, hn], hcomment⟩

theorem judges_below {i : Nat} (hi : header < i) :
    Judges (p ++ breakLine :: q) (i + 1) ↔ Judges (p ++ q) i := by
  obtain ⟨-, m, hm, -⟩ := c.judged
  have hlength : (p ++ breakLine :: q).length = (p ++ q).length + 1 := by simp [Nat.add_assoc]
  constructor
  · rintro ⟨hlt, n, hn, hcomment⟩
    have hmn : m < n := by
      rw [← (strictMono_after (p ++ breakLine :: q)).lt_iff_lt, c.after_above hm (Nat.le_refl m), hm, hn]
      exact hi.trans (Nat.lt_succ_self i)
    obtain ⟨hdown, hle⟩ := c.after_below hm hmn
    rw [hdown] at hn hcomment
    rw [isCommented_below hle] at hcomment
    exact ⟨by omega, n, Nat.succ.inj hn, hcomment⟩
  · rintro ⟨hlt, n, hn, hcomment⟩
    have hmn : m < n := by rwa [← (strictMono_after (p ++ q)).lt_iff_lt, hm, hn]
    obtain ⟨hdown, hle⟩ := c.after_below hm hmn
    rw [← isCommented_below hle, ← hdown] at hcomment
    exact ⟨by omega, n, by rw [hdown, down, hn], hcomment⟩

end CutLoop

/-- **Exits.** A line with `break;` below the brace that opens the block of a reported loop clears it: the
loop is judged again, its block has one line more, and it is not reported. Nothing is reported above it that
was not before, nothing in it, and the same below it, one line further down. -/
theorem reportsLine_break {ctx ctx' : Context} {header start last : Nat}
    (hreports : infiniteLoop.ReportsLine ctx (header + 1))
    (hbody : hasNoBody (statementAt ctx.lines header) = false)
    (hblock : findBlock? ctx.lines header = some (start, last)) (hlt : start < last)
    (hlines : ctx'.lines = ctx.lines.take (start + 1) ++ breakLine :: ctx.lines.drop (start + 1)) :
    ¬ infiniteLoop.ReportsLine ctx' (header + 1) ∧
      Judges ctx'.lines header ∧ findBlock? ctx'.lines header = some (start, last + 1) ∧
      (∀ i < header, infiniteLoop.ReportsLine ctx' (i + 1) → infiniteLoop.ReportsLine ctx (i + 1)) ∧
      (∀ i, header < i → i ≤ last + 1 → ¬ infiniteLoop.ReportsLine ctx' (i + 1)) ∧
      ∀ i, last < i → (infiniteLoop.ReportsLine ctx' (i + 2) ↔ infiniteLoop.ReportsLine ctx (i + 1)) := by
  have hb := isBlock_of_findBlock? hblock
  have hparts := List.take_append_drop (start + 1) ctx.lines
  have hcut : (ctx.lines.take (start + 1)).length = start + 1 := List.length_take_of_le hb.start_lt
  simp only [reportsLine_infiniteLoop_iff] at hreports ⊢
  rw [hlines]
  generalize ctx.lines.take (start + 1) = p at hparts hcut ⊢
  generalize ctx.lines.drop (start + 1) = q at hparts ⊢
  rw [← hparts] at hreports hbody hblock ⊢
  have c : CutLoop p q header start last := ⟨hreports.1, hreports.2, hbody, hblock, hlt, hcut⟩
  have hjudged := (c.judges_above (Nat.le_refl header)).mpr c.judged
  refine ⟨?_, hjudged, c.findBlock?_header, ?_, ?_, ?_⟩
  · rintro ⟨-, hfault⟩
    rw [c.verdictAt_header] at hfault
    cases hfault
  · rintro i hi ⟨hj, hfault⟩
    have hj' := (c.judges_above hi.le).mp hj
    obtain ⟨-, m, hm, -⟩ := c.judged
    have hresume := hj'.resume_le (hm.symm ▸ hi)
    exact ⟨hj', (c.verdictAt_above hi (hm ▸ hresume)).2 hfault⟩
  · rintro i hi hle ⟨⟨-, n, rfl, -⟩, -⟩
    have hresume := hjudged.resume_le hi
    have hpast := c.last_lt_resume
    rw [c.verdictAt_header] at hresume
    exact absurd (Nat.lt_of_lt_of_le (Nat.succ_lt_succ hpast) hresume) (Nat.not_lt.mpr hle)
  · intro i hi
    have hbelow : header < i := hb.header_le_last.trans_lt hi
    have hlength : p.length ≤ i := by omega
    rw [c.judges_below hbelow, verdictAt_below c.ne_nil hlength]
    rfl

/-- A `do` loop with its brace on the next line and its `while` two lines below the block. -/
theorem reportsLine_break_doLoop :
    let ctx := Context.ofSource "do\n\x7b\n  x();\n\x7d\n\nwhile (true);\nfor (;;);\n" "A.java"
    let ctx' := Context.ofSource "do\n\x7b\nbreak;\n  x();\n\x7d\n\nwhile (true);\nfor (;;);\n" "A.java"
    infiniteLoop.ReportsLine ctx 1 ∧ hasNoBody (statementAt ctx.lines 0) = false ∧
      findBlock? ctx.lines 0 = some (1, 3) ∧
      ctx'.lines = ctx.lines.take 2 ++ breakLine :: ctx.lines.drop 2 ∧
      ¬ infiniteLoop.ReportsLine ctx' 1 ∧ infiniteLoop.ReportsLine ctx' 8 := by
  intro ctx ctx'
  obtain ⟨hfirst, hlast, hbody, hblock, hlines⟩ :
      0 ∈ infiniteLoops ctx.lines 0 false 0 ctx.lines ∧ 6 ∈ infiniteLoops ctx.lines 0 false 0 ctx.lines ∧
      hasNoBody (statementAt ctx.lines 0) = false ∧ findBlock? ctx.lines 0 = some (1, 3) ∧
      ctx'.lines = ctx.lines.take 2 ++ breakLine :: ctx.lines.drop 2 := by
    decide +kernel
  have hreports {i : Nat} (h : i ∈ infiniteLoops ctx.lines 0 false 0 ctx.lines) :
      infiniteLoop.ReportsLine ctx (i + 1) :=
    reportsLine_infiniteLoop_iff.mpr (mem_infiniteLoops_iff.mp h)
  obtain ⟨hclear, -, -, -, -, hbelow⟩ :=
    reportsLine_break (hreports hfirst) hbody hblock (by decide) hlines
  exact ⟨hreports hfirst, hbody, hblock, hlines, hclear, (hbelow 6 (by decide)).mpr (hreports hlast)⟩

end JavaReview.Rule
