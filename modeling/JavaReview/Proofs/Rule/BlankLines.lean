import JavaReview.Proofs.Rule.Lines
import JavaReview.Proofs.Source.LineEnds
import JavaReview.Proofs.Text.Parts

/-!
Rules and line ends. With a carriage return before every line feed a text has the same lines, and the
empty ones at its end besides. Most rules take no notice of empty lines at the end
(`Rule.IgnoresBlank`). Two kinds of rules do: those of a pack whose pattern matches the empty line, and
the rule on infinite loops, which takes the last line for the end of a block that is not closed. Main
statement: on which texts, and for which rules on all texts, the line ends do not matter
(`Rule.Standard.lineEnds`).
-/

namespace JavaReview

namespace Rule

/-! ## An empty line at the end -/

/-- A view of lines that an empty line at the end does not change. -/
def IgnoresBlank {α : Type} (view : List Line → α) : Prop :=
  ∀ ls : List Line, (∀ l ∈ ls, '\n' ∉ l) → view (ls ++ [[]]) = view ls

theorem IgnoresBlank.append_replicate {α : Type} {view : List Line → α} (h : IgnoresBlank view)
    {ls : List Line} (hls : ∀ l ∈ ls, '\n' ∉ l) (n : Nat) :
    view (ls ++ List.replicate n []) = view ls := by
  induction n with
  | zero => rw [List.replicate_zero, List.append_nil]
  | succ n ih =>
    rw [List.replicate_succ', ← List.append_assoc, h _ ?_, ih]
    intro l hl
    rcases List.mem_append.mp hl with hl | hl
    · exact hls l hl
    · rw [List.eq_of_mem_replicate hl]
      exact List.not_mem_nil

theorem IgnoresBlank.map {α β : Type} {view : List Line → List α} (h : IgnoresBlank view) (f : α → β) :
    IgnoresBlank fun ls => (view ls).map f := fun ls hls => congrArg (List.map f) (h ls hls)

theorem ignoresBlank_onLines {issue : Issue} {fits : Line → Bool} (h : fits [] = false) :
    IgnoresBlank (issue.onLines fits) := by
  intro ls _
  rw [Issue.onLines, Issue.onLines, List.zipIdx_append, List.filterMap_append]
  simp [h]

theorem nestedLoops_concat_blank (depth n : Nat) (ls : List Line) :
    nestedLoops depth n (ls ++ [[]]) = nestedLoops depth n ls := by
  induction ls generalizing depth n with
  | nil => rfl
  | cons l ls ih => rw [List.cons_append, nestedLoops, nestedLoops, ih]

theorem concatsInLoop_concat_blank (depth : Option Int) (n : Nat) (ls : List Line) :
    concatsInLoop depth n (ls ++ [[]]) = concatsInLoop depth n ls := by
  induction ls generalizing depth n with
  | nil => cases depth <;> rfl
  | cons l ls ih => simp only [List.cons_append, concatsInLoop, ih]

theorem unreachableLines_concat_blank (seen : Bool) (balance : Int) (n : Nat) (ls : List Line) :
    unreachableLines seen balance n (ls ++ [[]]) = unreachableLines seen balance n ls := by
  induction ls generalizing seen balance n with
  | nil =>
    have hcandidate (b : Int) : isCandidate b [] = false := by simp [isCandidate]
    have htrim : Text.trim [] = [] := rfl
    simp [unreachableLines, htrim, hcandidate]
  | cons raw ls ih => simp only [List.cons_append, unreachableLines, ih]

/-! ## Names -/

theorem declarations_concat_blank (ls : List Line) : declarations (ls ++ [[]]) = declarations ls := by
  have hnone : namesDeclaredOn [] = [] := by decide
  rw [declarations, declarations, List.zipIdx_append, List.flatMap_append]
  simp [hnone]

theorem isUsed_concat_blank (ls : List Line) (d : Declared) : isUsed (ls ++ [[]]) d = isUsed ls d := by
  have hword : hasWord d.name (Line.code []) = false := by
    simp [hasWord, hasWordFrom, wordBoundary, Line.code, Text.before]
  rw [isUsed, isUsed, List.zipIdx_append, List.any_append]
  simp [hword]

theorem ignoresBlank_unusedVariables : IgnoresBlank unusedVariables := by
  intro ls _
  rw [unusedVariables, unusedVariables, declarations_concat_blank]
  exact List.filter_congr fun d _ => by rw [isUsed_concat_blank]

theorem importBody_concat_blank (ls : List Line) :
    importBody (ls ++ [[]]) = importBody ls ++ ['\n'] := by
  have htrim : Text.trim [] = [] := rfl
  have himport : isImport [] = false := rfl
  simp [importBody, htrim, himport]

theorem importedName?_sublist {t q : List Char} (h : importedName? t = some q) : q.Sublist t := by
  rw [importedName?] at h
  split at h
  · cases h
    refine ((Text.trim_isInfix _).trans (Text.dropStart_isSuffix _ _).isInfix).sublist.trans ?_
    refine ((Text.trim_isInfix _).trans (Text.dropEnd_isPrefix _ _).isInfix).sublist.trans ?_
    exact (Text.dropStart_isSuffix _ _).sublist
  · cases h

theorem simpleName_sublist (q : List Char) : (simpleName q).Sublist q := by
  rw [simpleName]
  cases h : Text.afterLast? '.' q with
  | none => exact List.Sublist.refl q
  | some t => exact ((List.suffix_cons _ t).trans (Text.afterLast?_eq_some_iff.mp h).1).sublist

/-- A name on one line is not found across lines. -/
theorem isImportUsed_concat_feed {q : List Char} (hq : '\n' ∉ q) (body : List Char) :
    isImportUsed (body ++ ['\n']) q = isImportUsed body q := by
  rw [isImportUsed, isImportUsed]
  -- The empty line only puts a line feed at the end of the body.
  have hfeed : '\n' ∉ simpleName q := fun h => hq ((simpleName_sublist q).subset h)
  congr 1
  rw [Bool.eq_iff_iff, Text.contains_iff_isInfix, Text.contains_iff_isInfix,
    Text.isInfix_append_cons_iff hfeed]
  refine or_iff_left_of_imp fun h => ?_
  rw [List.infix_nil.mp h]
  exact List.nil_infix

theorem ignoresBlank_unusedImports : IgnoresBlank unusedImports := by
  intro ls hls
  have hnone : importedName? (Text.trim []) = none := by decide
  rw [unusedImports, unusedImports, List.zipIdx_append, List.filterMap_append, importBody_concat_blank]
  simp only [List.zipIdx_singleton, List.filterMap_cons, hnone, List.filterMap_nil, List.append_nil]
  refine List.filterMap_congr fun p hp => ?_
  cases hq : importedName? (Text.trim p.1) with
  | none => rfl
  | some q =>
    have hfeed : '\n' ∉ q := by
      intro h
      have hsub := (importedName?_sublist hq).trans (Text.trim_isInfix p.1).sublist
      exact hls p.1 (List.fst_mem_of_mem_zipIdx hp) (hsub.subset h)
    simp only [isImportUsed_concat_feed hfeed]

/-! ## Rules -/

theorem fits_nil_of_onLines {issue : Issue} {fits : Line → Bool} (h : issue.onLines fits [[]] = []) :
    fits [] = false := by
  simpa [Issue.onLines] using h

/-- What a rule does with lines: unmatched braces are counted in the text, and all other rules report on
its lines. Of those only the rule on infinite loops can report otherwise because of an empty line at the
end on which it reports nothing. -/
theorem Standard.cases_lines {rule : Rule} (h : rule.Standard) :
    rule = unmatchedBraces ∨ ∃ name summary eval, rule = ofLines name summary eval ∧ eval [] = [] ∧
      (rule ≠ infiniteLoop → eval [[]] = [] → IgnoresBlank eval) := by
  have honLines {name summary : String} {issue : Issue} (fits : Line → Bool) :
      ofLines name summary (issue.onLines fits) = unmatchedBraces ∨ ∃ name' summary' eval,
        ofLines name summary (issue.onLines fits) = ofLines name' summary' eval ∧ eval [] = [] ∧
        (ofLines name summary (issue.onLines fits) ≠ infiniteLoop → eval [[]] = [] →
          IgnoresBlank eval) :=
    .inr ⟨_, _, _, rfl, rfl, fun _ hblank => ignoresBlank_onLines (fits_nil_of_onLines hblank)⟩
  cases h with
  | pack hcompile =>
    obtain ⟨issue, pattern, exclude, -, rfl⟩ := PatternSource.exists_of_compile hcompile
    exact honLines _
  | builtin hmem =>
    simp only [builtins, List.mem_cons, List.not_mem_nil, or_false] at hmem
    rcases hmem with rfl | rfl | rfl | rfl | rfl | rfl | rfl | rfl | rfl | rfl | rfl | rfl | rfl
    · exact honLines _
    · exact honLines _
    · exact honLines _
    · exact honLines _
    · exact .inl rfl
    · exact honLines _
    · exact honLines _
    · refine .inr ⟨_, _, _, rfl, rfl, fun _ _ => ?_⟩
      exact IgnoresBlank.map (fun ls _ => nestedLoops_concat_blank 0 1 ls) _
    · refine .inr ⟨_, _, _, rfl, rfl, fun _ _ => ?_⟩
      exact IgnoresBlank.map (fun ls _ => concatsInLoop_concat_blank none 1 ls) _
    · refine .inr ⟨_, _, _, rfl, rfl, fun _ _ => ?_⟩
      exact IgnoresBlank.map (fun ls _ => unreachableLines_concat_blank false 0 1 ls) _
    · exact .inr ⟨_, _, _, rfl, rfl, fun hloop => absurd rfl hloop⟩
    · exact .inr ⟨_, _, _, rfl, rfl, fun _ _ => ignoresBlank_unusedVariables.map _⟩
    · exact .inr ⟨_, _, _, rfl, rfl, fun _ _ => ignoresBlank_unusedImports.map _⟩

/-- A rule that reports on a text what it reports on it with carriage returns before the line feeds. -/
def SameWithReturns (rule : Rule) (filename : String) (s : List Char) : Prop :=
  rule.apply (.ofSource (String.ofList (Source.withReturns s)) filename) =
    rule.apply (.ofSource (String.ofList s) filename)

theorem apply_ofLines (name summary filename : String) (eval : List Line → List Finding)
    (s : List Char) : (ofLines name summary eval).apply (.ofSource (String.ofList s) filename) =
      .ok ((eval (Source.lines s)).map (·.stamp name)) := by
  rw [apply, ofLines, Context.ofSource, String.toList_ofList]
  rfl

theorem sameWithReturns_unmatchedBraces (filename : String) (s : List Char) :
    unmatchedBraces.SameWithReturns filename s := by
  simp only [SameWithReturns, apply, unmatchedBraces, Context.ofSource, String.toList_ofList,
    Source.count_withReturns (by decide : '\x7b' ≠ '\r'),
    Source.count_withReturns (by decide : '\x7d' ≠ '\r')]

namespace Standard

variable {rule : Rule} (h : rule.Standard) (filename : String)

include h

/-- If the lines of a text are the same, so is what a rule reports. -/
theorem sameWithReturns_of_lines {s : List Char}
    (hlines : Source.lines (Source.withReturns s) = Source.lines s) :
    rule.SameWithReturns filename s := by
  rcases h.cases_lines with rfl | ⟨name, summary, eval, rfl, -, -⟩
  · exact sameWithReturns_unmatchedBraces filename s
  · rw [SameWithReturns, apply_ofLines, apply_ofLines, hlines]

theorem sameWithReturns_of_ignoresBlank (hloop : rule ≠ infiniteLoop)
    (hblank : rule.apply (.ofSource "\r\n" filename) = .ok []) {s : List Char} (hs : '\r' ∉ s) :
    rule.SameWithReturns filename s := by
  rcases h.cases_lines with rfl | ⟨name, summary, eval, rfl, -, hignores⟩
  · exact sameWithReturns_unmatchedBraces filename s
  · have hreturn : Source.lines ['\r', '\n'] = [[]] := rfl
    have heval := apply_ofLines name summary filename eval ['\r', '\n']
    rw [hreturn] at heval
    have hnone : eval [[]] = [] := List.map_eq_nil_iff.mp (Except.ok.inj (heval.symm.trans hblank))
    have hlines : ∀ l ∈ Source.lines s, '\n' ∉ l := fun l => Source.feed_notMem_of_mem_lines
    rw [SameWithReturns, apply_ofLines, apply_ofLines, Source.lines_withReturns hs,
      (hignores hloop hnone).append_replicate hlines]

theorem apply_feed : rule.apply (.ofSource "\n" filename) = .ok [] := by
  rcases h.cases_lines with rfl | ⟨name, summary, eval, rfl, hnil, -⟩
  · rfl
  · have heval := apply_ofLines name summary filename eval ['\n']
    have hlines : Source.lines ['\n'] = [] := rfl
    rw [hlines, hnil] at heval
    exact heval

end Standard

/-- A block that is not closed ends with the last line. If that is the `while` of its loop, the loop is
reported; after it an empty line is the last one. -/
theorem not_sameWithReturns_infiniteLoop (filename : String) :
    ¬ infiniteLoop.SameWithReturns filename "do \x7b\nwhile (true);\n\n".toList := by
  intro hsame
  rw [SameWithReturns, infiniteLoop, apply_ofLines, apply_ofLines] at hsame
  have hlengths := congrArg List.length (Except.ok.inj hsame)
  rw [List.length_map, List.length_map] at hlengths
  revert hlengths
  decide +kernel

/-- **Line ends.** On a text without carriage returns a rule that is built in or written in a pack reports
the same with and without one before every line feed, unless the text is a line feed alone or ends in
two. The rules that report the same on all texts are those that report nothing on an empty line, without
the rule on infinite loops. -/
theorem Standard.lineEnds {rule : Rule} (h : rule.Standard) (filename : String) :
    (∀ s : List Char, '\r' ∉ s →
      Source.lines (Source.withReturns s) =
        Source.lines s ++ List.replicate (Source.blanksAtEnd s) [] ∧
      (Source.lines (Source.withReturns s) = Source.lines s ↔ s ≠ ['\n'] ∧ ¬ ['\n', '\n'] <:+ s) ∧
      (s ≠ ['\n'] ∧ ¬ ['\n', '\n'] <:+ s → rule.SameWithReturns filename s)) ∧
    ((∀ s : List Char, '\r' ∉ s → rule.SameWithReturns filename s) ↔
      rule ≠ infiniteLoop ∧ rule.apply (.ofSource "\r\n" filename) = .ok []) := by
  refine ⟨fun s hs => ⟨Source.lines_withReturns hs, Source.lines_withReturns_eq_iff hs, ?_⟩, ?_, ?_⟩
  · intro hend
    exact h.sameWithReturns_of_lines filename ((Source.lines_withReturns_eq_iff hs).mpr hend)
  · -- A line feed alone has no lines, and an empty one with its carriage return.
    intro hsame
    refine ⟨?_, (hsame ['\n'] (by decide)).trans (h.apply_feed filename)⟩
    rintro rfl
    exact not_sameWithReturns_infiniteLoop filename (hsame _ (by decide))
  · rintro ⟨hloop, hblank⟩ s hs
    exact h.sameWithReturns_of_ignoresBlank filename hloop hblank hs

/-- Unused imports are the same on all texts. -/
theorem lineEnds_unusedImport : unusedImport.Standard ∧
    ∀ s : List Char, '\r' ∉ s → unusedImport.SameWithReturns "A.java" s := by
  have h : unusedImport.Standard := .builtin (by simp [builtins])
  have hname : unusedImport.name ≠ infiniteLoop.name := by decide
  refine ⟨h, (h.lineEnds "A.java").2.mpr ⟨fun heq => hname (congrArg Rule.name heq), ?_⟩⟩
  rfl

/-- The empty line at the end of a text is a line only if it is written with a carriage return. -/
theorem lines_withReturns_ne_of_blank : '\r' ∉ "a\n\n".toList ∧
    Source.lines (Source.withReturns "a\n\n".toList) = [['a'], []] ∧
    Source.lines "a\n\n".toList = [['a']] := by
  decide

end Rule

end JavaReview
