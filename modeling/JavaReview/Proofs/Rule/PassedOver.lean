import JavaReview.Proofs.Rule.LoopScan
import JavaReview.Proofs.Text.Parts

/-!
What the scan for infinite loops passes over. After a loop it goes on below the loop's block, and the lines
of the block are not looked at. Two things follow. A block comment that is opened in a block is not seen, so
lines of it may be reported; this is the only way in which that happens (`Judges.isCommentLine_iff`). And a
loop inside a loop is not judged; where nothing leaves a loop, no unconditional loop is missed but these.
-/

namespace JavaReview

namespace Rule

open Text

/-! ## Block comments -/

section Comments

variable (ls : List Line) (i : Nat)

/-- Whether a block comment is open before a line, if every line from the first on is looked at. -/
def commentOpenBefore : Nat → Bool
  | 0 => false
  | i + 1 =>
    inBlockComment (commentOpenBefore i) (ls[i]?.getD []) && commentStaysOpen (ls[i]?.getD [])

/-- A line of a block comment, if every line from the first on is looked at. -/
def IsCommentLine : Prop := inBlockComment (commentOpenBefore ls i) (ls[i]?.getD []) = true

/-- A line that opens a block comment, or would if none were open. -/
def OpensComment : Prop := contains ['/', '*'] (codeAt ls i) = true

/-- A line that closes a block comment, or would if one were open. -/
def ClosesComment : Prop := contains ['*', '/'] (codeAt ls i) = true

/-- A block comment that is opened in the block of a loop that the scan passes over, and is still open
before a line below the loop. -/
def CommentPassedOver (header : Nat) : Prop :=
  Judges ls header ∧ (verdictAt ls header).resume ≤ i ∧
    ∃ k, header < k ∧ k < (verdictAt ls header).resume ∧ OpensComment ls k ∧
      ∀ j, k ≤ j → j < i → ¬ ClosesComment ls j

end Comments

variable {ls : List Line} {i : Nat}

theorem OpensComment.lt_length (h : OpensComment ls i) : i < ls.length := by
  refine Nat.lt_of_not_le fun hle => ?_
  rw [OpensComment, codeAt_of_length_le hle] at h
  cases h

theorem inBlockComment_eq_true_iff {wasOpen : Bool} :
    inBlockComment wasOpen (ls[i]?.getD []) = true ↔ wasOpen = true ∨ OpensComment ls i := by
  rw [inBlockComment, Bool.or_eq_true]
  rfl

theorem commentStaysOpen_eq_true_iff :
    commentStaysOpen (ls[i]?.getD []) = true ↔ ¬ ClosesComment ls i := by
  rw [commentStaysOpen, Bool.not_eq_true', ← Bool.not_eq_true]
  rfl

/-- A block comment is open after a line that opens one, up to the first line that closes one. -/
theorem commentOpenBefore_iff : commentOpenBefore ls i = true ↔
    ∃ k < i, OpensComment ls k ∧ ∀ j, k ≤ j → j < i → ¬ ClosesComment ls j := by
  induction i with
  | zero => simp [commentOpenBefore]
  | succ i ih =>
    rw [commentOpenBefore, Bool.and_eq_true, inBlockComment_eq_true_iff, commentStaysOpen_eq_true_iff, ih]
    constructor
    · rintro ⟨⟨k, hk, hopens, hstays⟩ | hopens, hi⟩
      · refine ⟨k, by omega, hopens, fun j hkj hj => ?_⟩
        rcases Nat.lt_succ_iff_lt_or_eq.mp hj with hj | rfl
        · exact hstays j hkj hj
        · exact hi
      · refine ⟨i, Nat.lt_succ_self i, hopens, fun j hij hj => ?_⟩
        rwa [Nat.le_antisymm (Nat.lt_succ_iff.mp hj) hij]
    · rintro ⟨k, hk, hopens, hstays⟩
      refine ⟨?_, hstays i (Nat.lt_succ_iff.mp hk) (Nat.lt_succ_self i)⟩
      rcases Nat.lt_succ_iff_lt_or_eq.mp hk with hk | rfl
      · exact .inl ⟨k, hk, hopens, fun j hkj hj => hstays j hkj (by omega)⟩
      · exact .inr hopens

namespace LoopScan

theorem commentOpenBefore_of_comment (n : Nat) (h : (after ls n).comment = true) :
    commentOpenBefore ls (after ls n).pos = true := by
  induction n with
  | zero => cases h
  | succ n ih =>
    rw [after_succ] at h ⊢
    cases hcomment : (after ls n).isCommented ls with
    | false =>
      rw [next_of_judged hcomment] at h
      cases h
    | true =>
      rw [next_of_isCommented hcomment] at h ⊢
      rw [commentOpenBefore, Bool.and_eq_true, inBlockComment_eq_true_iff]
      refine ⟨?_, h⟩
      exact (inBlockComment_eq_true_iff.mp hcomment).imp_left ih

/-- A comment that the scan does not see was opened in a block that it passed over. -/
theorem exists_commentPassedOver (n : Nat) (hclosed : (after ls n).comment = false)
    (h : commentOpenBefore ls (after ls n).pos = true) :
    ∃ header, CommentPassedOver ls (after ls n).pos header := by
  induction n with
  | zero => cases h
  | succ n ih =>
    rw [after_succ] at hclosed h ⊢
    cases hcomment : (after ls n).isCommented ls with
    | true =>
      -- The comment was closed on the line before.
      rw [next_of_isCommented hcomment] at hclosed h
      rw [commentOpenBefore, Bool.and_eq_true] at h
      exact absurd h.2 (Bool.eq_false_iff.mp hclosed)
    | false =>
      have hopen := hcomment
      rw [isCommented, ← Bool.not_eq_true, inBlockComment_eq_true_iff, not_or] at hopen
      have hforward := pos_lt_next ls (after ls n)
      rw [next_of_judged hcomment] at h hforward ⊢
      obtain ⟨k, hk, hopens, hstays⟩ := commentOpenBefore_iff.mp h
      rcases Nat.lt_trichotomy k (after ls n).pos with hlt | heq | hgt
      · -- It was open before the loop that is judged here, and stays so up to the end of that.
        have hbefore : commentOpenBefore ls (after ls n).pos = true :=
          commentOpenBefore_iff.mpr ⟨k, hlt, hopens, fun j hkj hj => hstays j hkj (hj.trans hforward)⟩
        obtain ⟨header, hheader, hle, k', hk', hlt', hopens', hstays'⟩ :=
          ih (Bool.eq_false_iff.mpr hopen.1) hbefore
        refine ⟨header, hheader, hle.trans (Nat.le_of_lt hforward), k', hk', hlt', hopens', ?_⟩
        intro j hkj hj
        by_cases hjn : j < (after ls n).pos
        · exact hstays' j hkj hjn
        · exact hstays j (by omega) hj
      · exact absurd (heq ▸ hopens) hopen.2
      · have hlength := hgt.trans hopens.lt_length
        exact ⟨(after ls n).pos, ⟨hlength, n, rfl, hcomment⟩, Nat.le_refl _, k, hgt, hk, hopens, hstays⟩

end LoopScan

theorem CommentPassedOver.commentOpenBefore {header : Nat} (h : CommentPassedOver ls i header) :
    commentOpenBefore ls i = true := by
  obtain ⟨-, hle, k, -, hk, hopens, hstays⟩ := h
  exact commentOpenBefore_iff.mpr ⟨k, by omega, hopens, hstays⟩

/-- A line that is judged belongs to a block comment only if that was passed over. -/
theorem Judges.isCommentLine_iff (h : Judges ls i) :
    IsCommentLine ls i ↔ ∃ header, CommentPassedOver ls i header := by
  obtain ⟨-, n, rfl, hcomment⟩ := h
  rw [LoopScan.isCommented, ← Bool.not_eq_true, inBlockComment_eq_true_iff, not_or] at hcomment
  rw [IsCommentLine, inBlockComment_eq_true_iff, or_iff_left hcomment.2]
  constructor
  · exact LoopScan.exists_commentPassedOver n (Bool.eq_false_iff.mpr hcomment.1)
  · rintro ⟨header, hheader⟩
    exact hheader.commentOpenBefore

/-- No line of a block comment is reported as an infinite loop. -/
def IgnoresComments (ctx : Context) : Prop :=
  ∀ i, infiniteLoop.ReportsLine ctx (i + 1) → ¬ IsCommentLine ctx.lines i

/-- **Block comments.** A line that is reported belongs to a block comment exactly if that was opened in
the block of a loop above it, and is not closed between. So none is reported if no comment is open where
the scan goes on after a loop. -/
theorem isCommentLine_reported_iff (ctx : Context) :
    (∀ i, infiniteLoop.ReportsLine ctx (i + 1) →
      (IsCommentLine ctx.lines i ↔ ∃ header, CommentPassedOver ctx.lines i header)) ∧
    ((∀ header, Judges ctx.lines header →
      commentOpenBefore ctx.lines (verdictAt ctx.lines header).resume = false) → IgnoresComments ctx) := by
  have hpoint (i : Nat) (h : infiniteLoop.ReportsLine ctx (i + 1)) :=
    (reportsLine_infiniteLoop_iff.mp h).1.isCommentLine_iff
  refine ⟨hpoint, fun hclosed i h hline => ?_⟩
  obtain ⟨header, hjudged, hle, k, hk, hlt, hopens, hstays⟩ := (hpoint i h).mp hline
  have hopen : commentOpenBefore ctx.lines (verdictAt ctx.lines header).resume = true :=
    commentOpenBefore_iff.mpr ⟨k, hlt, hopens, fun j hkj hj => hstays j hkj (hj.trans_le hle)⟩
  exact absurd hopen (Bool.eq_false_iff.mp (hclosed header hjudged))

/-- A loop in a block comment and one below it, each on one line. -/
theorem isCommentLine_reported_iff_oneLineLoops :
    let ctx := Context.ofSource "/*\nwhile (true) \x7b \x7d\n*/\nwhile (true) \x7b \x7d\n" "A.java"
    IgnoresComments ctx ∧ IsCommentLine ctx.lines 1 ∧ ¬ infiniteLoop.ReportsLine ctx 2 ∧
      infiniteLoop.ReportsLine ctx 4 ∧ ¬ IsCommentLine ctx.lines 3 := by
  intro ctx
  obtain ⟨hline, hlast, hresume⟩ :
      inBlockComment (commentOpenBefore ctx.lines 1) (ctx.lines[1]?.getD []) = true ∧
      3 ∈ infiniteLoops ctx.lines 0 false 0 ctx.lines ∧
      ∀ header < ctx.lines.length, (verdictAt ctx.lines header).resume = header + 1 := by
    decide +kernel
  -- No line is passed over, so the lines that are judged are not in a comment.
  have hclosed (header : Nat) (h : Judges ctx.lines header) :
      commentOpenBefore ctx.lines (verdictAt ctx.lines header).resume = false := by
    have hnot : ¬ IsCommentLine ctx.lines header := fun hcomment => by
      obtain ⟨header', ⟨hlt, -⟩, -, k, hk, hk', -⟩ := h.isCommentLine_iff.mp hcomment
      rw [hresume header' hlt] at hk'
      omega
    rw [hresume header h.1, commentOpenBefore, Bool.eq_false_iff.mpr hnot, Bool.false_and]
  have hignores := (isCommentLine_reported_iff ctx).2 hclosed
  have hreported := reportsLine_infiniteLoop_iff.mpr (mem_infiniteLoops_iff.mp hlast)
  exact ⟨hignores, hline, fun h => hignores 1 h hline, hreported, hignores 3 hreported⟩

/-- A comment that starts on the last line of a block is not seen. -/
theorem not_ignoresComments_afterBlock : ¬ IgnoresComments (.ofSource
    "while (true) \x7b\n  break;\n\x7d /* was:\nwhile (true) \x7b \x7d\n*/\n" "A.java") := by
  intro h
  obtain ⟨hreported, hline⟩ : let ls := Source.lines (String.toList
      "while (true) \x7b\n  break;\n\x7d /* was:\nwhile (true) \x7b \x7d\n*/\n")
      3 ∈ infiniteLoops ls 0 false 0 ls ∧ inBlockComment (commentOpenBefore ls 3) (ls[3]?.getD []) = true := by
    decide +kernel
  exact h 3 (reportsLine_infiniteLoop_iff.mpr (mem_infiniteLoops_iff.mp hreported)) hline

/-! ## Loops inside loops -/

/-- A line without the mark that opens a block comment and without the texts that leave a loop. -/
def isPlain (l : Line) : Bool :=
  ["/*", "break;", "return", "throw "].all fun text => !contains text.toList l.code

/-- A line that the scan passes over with the loop of a header: it stands in the block of the loop, or is
the `while` that closes a `do` loop. -/
inductive InLoop (ls : List Line) (header k : Nat) : Prop
  | block {start last : Nat} : isUnconditional (statementAt ls header) = true →
      hasNoBody (statementAt ls header) = false → findBlock? ls header = some (start, last) →
      start ≤ k → k ≤ last → InLoop ls header k
  | doBlock {start last : Nat} : isDoHeader (statementAt ls header) = true →
      findBlock? ls header = some (start, last) → start ≤ k → k ≤ last → InLoop ls header k
  | doWhile {start last : Nat} {t : Line} : isDoHeader (statementAt ls header) = true →
      findBlock? ls header = some (start, last) → doWhile? ls last = some (k, t) → InLoop ls header k

section Plain

variable (h : ∀ l ∈ ls, isPlain l = true)

include h

theorem isPlain_codeAt (i : Nat) (text : String) (htext : text ∈ ["/*", "break;", "return", "throw "]) :
    contains text.toList (codeAt ls i) = false := by
  by_cases hi : i < ls.length
  · have hline := List.all_eq_true.mp (h ls[i] (List.getElem_mem hi)) text htext
    rwa [codeAt_of_lt hi, ← Bool.not_eq_true']
  · rw [codeAt_of_length_le (Nat.le_of_not_lt hi)]
    simp only [List.mem_cons, List.not_mem_nil, or_false] at htext
    rcases htext with rfl | rfl | rfl | rfl <;> decide

theorem isLoopExit_of_isInfix (i : Nat) {t : Line} (ht : t <:+: codeAt ls i) :
    isLoopExit t = false := by
  have hnot (text : String) (htext : text ∈ ["/*", "break;", "return", "throw "]) :
      ¬ text.toList <:+: t := by
    intro hpart
    have hcontains := contains_iff_isInfix.mpr (hpart.trans ht)
    exact absurd hcontains (Bool.eq_false_iff.mp (isPlain_codeAt h i text htext))
  rw [isLoopExit, Bool.or_eq_false_iff, Bool.or_eq_false_iff]
  refine ⟨⟨Bool.eq_false_iff.mpr fun hbreak => ?_, Bool.eq_false_iff.mpr fun hreturn => ?_⟩,
    Bool.eq_false_iff.mpr fun hthrow => ?_⟩
  · exact hnot "break;" (by decide) (contains_iff_isInfix.mp hbreak)
  · exact hnot "return" (by decide) (List.isPrefixOf_iff_prefix.mp hreturn).isInfix
  · exact hnot "throw " (by decide) (List.isPrefixOf_iff_prefix.mp hthrow).isInfix

theorem linesHaveExit_of_isPlain (first last : Nat) :
    linesHaveExit ls first last = false := by
  rw [linesHaveExit, List.any_eq_false]
  intro l hl
  obtain ⟨i, hi, rfl⟩ := List.mem_iff_getElem.mp (List.mem_of_mem_drop (List.mem_of_mem_take hl))
  exact Bool.eq_false_iff.mp (isLoopExit_of_isInfix h i (codeAt_of_lt hi ▸ trim_isInfix _))

theorem blockHasExit_of_isPlain (start last : Nat) :
    blockHasExit ls start last = false := by
  -- The text after the brace is looked at first: it is a part of its line too.
  rw [blockHasExit, Bool.or_eq_false_iff]
  refine ⟨isLoopExit_of_isInfix h start ((trim_isInfix _).trans ?_), linesHaveExit_of_isPlain h _ _⟩
  cases hafter : after? '\x7b' (codeAt ls start) with
  | none => exact List.infix_rfl
  | some t => exact (after?_isSuffix hafter).isInfix

/-- Where nothing leaves a loop, every unconditional one that is judged is reported. -/
theorem reported_of_isPlain (hform : isUnconditional (statementAt ls i) = true) :
    (verdictAt ls i).reported = true := by
  have hcase := verdictAt_cases ls i
  generalize verdictAt ls i = v at hcase ⊢
  cases hcase with
  | noBody => rfl
  | braceless => exact congrArg not (linesHaveExit_of_isPlain h _ _)
  | block => exact congrArg not (blockHasExit_of_isPlain h _ _)
  | doBraceless hloop | doAlone hloop | doWhile hloop | other hloop =>
    rw [hform] at hloop
    cases hloop

/-- Where no comment is opened, all lines that the scan looks at are judged. -/
theorem LoopScan.isCommented_of_isPlain (n : Nat) :
    (after ls n).isCommented ls = false := by
  have hopens (i : Nat) : ¬ OpensComment ls i :=
    Bool.eq_false_iff.mp (isPlain_codeAt h i "/*" (by decide))
  rw [isCommented, ← Bool.not_eq_true, inBlockComment_eq_true_iff, not_or]
  refine ⟨fun hcomment => ?_, hopens _⟩
  obtain ⟨k, -, hk, -⟩ := commentOpenBefore_iff.mp (commentOpenBefore_of_comment n hcomment)
  exact hopens k hk

end Plain

theorem isUnconditional_of_isDoHeader {t : Line} (h : isDoHeader t = true) :
    isUnconditional t = false := by
  rw [isDoHeader] at h
  split at h
  next => cases h
  all_goals
    next heat =>
      rw [eq_append_of_eat? heat]
      rfl

theorem ne_nil_of_isUnconditional {t : Line} (h : isUnconditional t = true) : t ≠ [] := by
  rintro rfl
  cases h

/-- The lines of a loop are those between its header and where the scan goes on, less the blank ones. -/
theorem inLoop_iff {header k : Nat} (hlt : header < k) (hk : statementAt ls k ≠ []) :
    InLoop ls header k ↔ k < (verdictAt ls header).resume := by
  constructor
  · intro hin
    cases hin with
    | block hloop hbody hblock _ hlast =>
      rw [(LoopCase.block hloop hbody hblock).verdictAt_eq]
      exact Nat.lt_succ_of_le hlast
    | @doBlock start last hdo hblock _ hlast =>
      have hloop := isUnconditional_of_isDoHeader hdo
      cases htail : doWhile? ls last with
      | none =>
        rw [(LoopCase.doAlone hloop hdo hblock htail).verdictAt_eq]
        exact Nat.lt_succ_of_le hlast
      | some tail =>
        have ht := isTail_of_doWhile? (isBlock_of_findBlock? hblock).last_lt htail
        rw [(LoopCase.doWhile hloop hdo hblock htail).verdictAt_eq]
        exact Nat.lt_succ_of_le (hlast.trans ht.last_le)
    | doWhile hdo hblock htail =>
      rw [(LoopCase.doWhile (isUnconditional_of_isDoHeader hdo) hdo hblock htail).verdictAt_eq]
      exact Nat.lt_succ_self k
  · have hcase := verdictAt_cases ls header
    generalize verdictAt ls header = v at hcase ⊢
    intro hresume
    cases hcase with
    | noBody | braceless | doBraceless | other => exact absurd hlt (Nat.not_lt.mpr (Nat.lt_succ_iff.mp hresume))
    | block hloop hbody hblock =>
      have hstart := (isBlock_of_findBlock? hblock).start_le_of_statement hlt hk
      exact .block hloop hbody hblock hstart (Nat.lt_succ_iff.mp hresume)
    | doAlone _ hdo hblock =>
      have hstart := (isBlock_of_findBlock? hblock).start_le_of_statement hlt hk
      exact .doBlock hdo hblock hstart (Nat.lt_succ_iff.mp hresume)
    | @doWhile start last j t _ hdo hblock htail =>
      have hb := isBlock_of_findBlock? hblock
      by_cases hlast : k ≤ last
      · exact .doBlock hdo hblock (hb.start_le_of_statement hlt hk) hlast
      · -- Below the block there are blank lines and then the `while`.
        have hj : j ≤ k := Nat.le_of_not_lt fun hkj =>
          hk ((isTail_of_doWhile? hb.last_lt htail).blank k (Nat.lt_of_not_le hlast) hkj)
        cases Nat.le_antisymm hj (Nat.lt_succ_iff.mp hresume)
        exact .doWhile hdo hblock htail

/-- **Missed loops.** In a text without block comments in which nothing leaves a loop, an unconditional
`while` or `for` is reported exactly if it does not belong to a loop above it that the scan judges. -/
theorem reportsLine_iff_not_inLoop {ctx : Context} (hplain : ∀ l ∈ ctx.lines, isPlain l = true) {k : Nat}
    (hform : isUnconditional (statementAt ctx.lines k) = true) :
    infiniteLoop.ReportsLine ctx (k + 1) ↔
      ¬ ∃ header < k, Judges ctx.lines header ∧ InLoop ctx.lines header k := by
  have hk := ne_nil_of_isUnconditional hform
  rw [reportsLine_infiniteLoop_iff, and_iff_left (reported_of_isPlain hplain hform)]
  constructor
  · rintro ⟨-, n, rfl, -⟩ ⟨header, hlt, hjudged, hin⟩
    exact absurd (hjudged.resume_le hlt) (Nat.not_le.mpr ((inLoop_iff hlt hk).mp hin))
  · intro hout
    have hlength : k < ctx.lines.length :=
      Nat.lt_of_not_le fun hle => hk (statementAt_of_length_le hle)
    -- The line is looked at in the step that does not lead past it from above.
    obtain ⟨n, hle, hnext⟩ := LoopScan.exists_between ctx.lines k
    have hcomment := LoopScan.isCommented_of_isPlain hplain n
    rcases Nat.lt_or_eq_of_le hle with hlt | heq
    · rw [LoopScan.next_of_judged hcomment] at hnext
      refine absurd ⟨_, hlt, ⟨hlt.trans hlength, n, rfl, hcomment⟩, ?_⟩ hout
      exact (inLoop_iff hlt hk).mpr hnext
    · exact ⟨hlength, n, heq, hcomment⟩

/-- A loop inside another is not judged, and so not reported. -/
theorem reportsLine_iff_not_inLoop_nested :
    let ctx := Context.ofSource "for (;;) \x7b\n  while (true);\n\x7d\nwhile (0 == 0)\n  x();\n" "A.java"
    (∀ l ∈ ctx.lines, isPlain l = true) ∧
      isUnconditional (statementAt ctx.lines 1) = true ∧ ¬ infiniteLoop.ReportsLine ctx 2 ∧
      isUnconditional (statementAt ctx.lines 3) = true ∧ infiniteLoop.ReportsLine ctx 4 := by
  intro ctx
  obtain ⟨hplain, hinner, hlater, houter, hbody, hblock, hresume⟩ :
      (∀ l ∈ ctx.lines, isPlain l = true) ∧ isUnconditional (statementAt ctx.lines 1) = true ∧
      isUnconditional (statementAt ctx.lines 3) = true ∧
      isUnconditional (statementAt ctx.lines 0) = true ∧ hasNoBody (statementAt ctx.lines 0) = false ∧
      findBlock? ctx.lines 0 = some (0, 2) ∧ ∀ header < 3, (verdictAt ctx.lines header).resume ≤ 3 := by
    decide +kernel
  refine ⟨hplain, hinner, ?_, hlater, ?_⟩
  · rw [reportsLine_iff_not_inLoop hplain hinner, not_not]
    have hlength : 0 < ctx.lines.length :=
      (isBlock_of_findBlock? hblock).header_le_last.trans_lt (isBlock_of_findBlock? hblock).last_lt
    have hjudges : Judges ctx.lines 0 := ⟨hlength, 0, rfl, LoopScan.isCommented_of_isPlain hplain 0⟩
    exact ⟨0, Nat.zero_lt_one, hjudges, .block houter hbody hblock (Nat.zero_le 1) (by decide)⟩
  · rw [reportsLine_iff_not_inLoop hplain hlater]
    rintro ⟨header, hlt, -, hin⟩
    exact absurd ((inLoop_iff hlt (ne_nil_of_isUnconditional hlater)).mp hin)
      (Nat.not_lt.mpr (hresume header hlt))

end Rule

end JavaReview
