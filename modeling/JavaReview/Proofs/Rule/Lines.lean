import JavaReview.Proofs.Rule.Compiling
import JavaReview.Proofs.Store.Operations
import JavaReview.Rule.Builtin

/-!
What the rules report with, and where. A rule that is built in or written in a pack never fails, its
findings have a known category and a known severity (`Rule.Standard.known`), and it reads a text from top
to bottom: its findings stand on lines of the text, in order (`Rule.Standard.linesInOrder`). Most scanners
report a sublist of the line numbers. Several variables can be declared on one line, and unmatched braces
are reported for the file as a whole.
-/

namespace JavaReview

/-- A category and a severity that rules report with. -/
def Finding.IsKnown (f : Finding) : Prop := f.category ∈ Category.known ∧ f.severity ∈ Severity.known

/-- An issue with a category and a severity that rules report with. -/
def Issue.IsKnown (t : Issue) : Prop := t.category ∈ Category.known ∧ t.severity ∈ Severity.known

instance (t : Issue) : Decidable t.IsKnown := inferInstanceAs (Decidable (_ ∧ _))

@[simp] theorem Issue.line_atLine (t : Issue) (n : Nat) : (t.atLine n).line = n := rfl

theorem Issue.IsKnown.atLine {t : Issue} (h : t.IsKnown) (n : Nat) : (t.atLine n).IsKnown := h

namespace Finding

variable (name : String) (f : Finding)

@[simp] theorem line_stamp : (f.stamp name).line = f.line := by
  unfold stamp
  split <;> rfl

@[simp] theorem isKnown_stamp : (f.stamp name).IsKnown ↔ f.IsKnown := by
  unfold stamp
  split <;> rfl

theorem rule_stamp_ne (h : name ≠ "") : (f.stamp name).rule ≠ "" := by
  unfold stamp
  split
  · exact h
  · assumption

end Finding

theorem Category.mem_known_of_parse? {s : String} {c : Category} (h : parse? s = some c) :
    c ∈ known := by
  simp only [parse?, Option.ite_none_right_eq_some, Option.some.injEq] at h
  exact h.2 ▸ h.1

theorem Severity.mem_known_of_parse? {s : String} {v : Severity} (h : parse? s = some v) :
    v ∈ known := by
  simp only [parse?, Option.ite_none_right_eq_some, Option.some.injEq] at h
  exact h.2 ▸ h.1

/-- A rule of a pack reports one issue, and that is a known one. -/
theorem PatternSource.exists_of_compile {s : PatternSource} {rule : Rule} (h : s.compile = .ok rule) :
    ∃ issue pattern exclude, issue.IsKnown ∧ rule = s.toRule issue pattern exclude := by
  cases PatternSource.compiles_iff.mpr h with
  | plain _ hcategory hseverity _ _ =>
    exact ⟨_, _, none, ⟨Category.mem_known_of_parse? hcategory, Severity.mem_known_of_parse? hseverity⟩,
      rfl⟩
  | excluding _ hcategory hseverity _ _ _ =>
    exact ⟨_, _, some _, ⟨Category.mem_known_of_parse? hcategory, Severity.mem_known_of_parse? hseverity⟩,
      rfl⟩

namespace Rule

/-- The rules that are built in and those that packs write. -/
inductive Standard : Rule → Prop
  | builtin {rule : Rule} : rule ∈ builtins → Standard rule
  | pack {s : PatternSource} {rule : Rule} : s.compile = .ok rule → Standard rule

/-- A rule that never fails and reports known issues on lines of the text, one after the other in an
order of line numbers. -/
def Reports (R : Int → Int → Prop) (rule : Rule) : Prop :=
  ∀ ctx, ∃ fs, rule.check ctx = .ok fs ∧
    (∀ f ∈ fs, f.IsKnown ∧ 1 ≤ f.line ∧ f.line ≤ ctx.lines.length) ∧
      fs.Pairwise fun f g => R f.line g.line

/-! ## Scanners -/

section Scanners

variable {name summary : String} {α : Type}

theorem reports_map {R : Int → Int → Prop} {eval : List Line → List α} {issue : α → Issue}
    {line : α → Nat} (hissue : ∀ a, (issue a).IsKnown)
    (hrange : ∀ ls, ∀ a ∈ eval ls, 1 ≤ line a ∧ line a ≤ ls.length)
    (horder : ∀ ls, (eval ls).Pairwise fun a b => R (line a) (line b)) :
    (ofLines name summary fun ls => (eval ls).map fun a => (issue a).atLine (line a)).Reports R := by
  intro ctx
  refine ⟨_, rfl, ?_, List.pairwise_map.mpr (horder ctx.lines)⟩
  intro f hf
  obtain ⟨a, ha, rfl⟩ := List.mem_map.mp hf
  have hline := hrange ctx.lines a ha
  refine ⟨(hissue a).atLine _, ?_⟩
  rw [Issue.line_atLine]
  omega

/-- A rule that reports a sublist of the line numbers, each with an issue of its own. -/
theorem reports_of_sublist {eval : List Line → List α} {issue : α → Issue} {line : α → Nat}
    (hissue : ∀ a, (issue a).IsKnown)
    (hline : ∀ ls, ((eval ls).map line).Sublist (List.range' 1 ls.length)) :
    (ofLines name summary fun ls => (eval ls).map fun a => (issue a).atLine (line a)).Reports
      (· < ·) := by
  refine reports_map hissue (fun ls a ha => ?_) fun ls => ?_
  · have hrange := List.mem_range'_1.mp ((hline ls).subset (List.mem_map_of_mem ha))
    omega
  · have hascending := (List.pairwise_lt_range' 1).sublist (hline ls)
    exact (List.pairwise_map.mp hascending).imp fun hlt => Int.ofNat_lt.mpr hlt

/-- One line of a scan: its number or nothing, and then the numbers of the lines below. -/
theorem sublist_cons {ns ms : List Nat} (report : Bool) (n : Nat) (h : ns.Sublist ms) :
    ((if report then [n] else []) ++ ns).Sublist (n :: ms) := by
  cases report with
  | true => exact h.cons_cons n
  | false => exact h.cons n

theorem nestedLoops_sublist (depth n : Nat) (ls : List Line) :
    (nestedLoops depth n ls).Sublist (List.range' n ls.length) := by
  induction ls generalizing depth n with
  | nil => exact .slnil
  | cons l ls ih => exact sublist_cons _ n (ih (nestedDepth depth l) (n + 1))

theorem concatsInLoop_sublist (depth : Option Int) (n : Nat) (ls : List Line) :
    (concatsInLoop depth n ls).Sublist (List.range' n ls.length) := by
  induction ls generalizing depth n with
  | nil => exact .slnil
  | cons l ls ih =>
    rw [concatsInLoop]
    split
    · exact (ih none (n + 1)).cons n
    next d _ => exact sublist_cons _ n (ih (depthAfter d l) (n + 1))

theorem unreachableLines_sublist (seen : Bool) (balance : Int) (n : Nat) (ls : List Line) :
    (unreachableLines seen balance n ls).Sublist (List.range' n ls.length) := by
  induction ls generalizing seen balance n with
  | nil => exact .slnil
  | cons raw ls ih => exact sublist_cons _ n (ih _ _ (n + 1))

/-- A loop that was judged is passed over line by line, so the scan reports no position twice. -/
theorem infiniteLoops_sublist (all : List Line) (resume : Nat) (comment : Bool) (i : Nat)
    (ls : List Line) :
    (infiniteLoops all resume comment i ls).Sublist (List.range' i ls.length) := by
  induction ls generalizing resume comment i with
  | nil => exact .slnil
  | cons l ls ih =>
    rw [infiniteLoops]
    split
    · exact (ih resume comment (i + 1)).cons i
    · split
      · exact (ih resume _ (i + 1)).cons i
      · exact sublist_cons _ i (ih _ false (i + 1))

theorem filterMap_zipIdx_sublist {f : Line × Nat → Option α} {line : α → Nat}
    (h : ∀ p a, f p = some a → line a = p.2) (n : Nat) (ls : List Line) :
    (((ls.zipIdx n).filterMap f).map line).Sublist (List.range' n ls.length) := by
  induction ls generalizing n with
  | nil => exact .slnil
  | cons l ls ih =>
    rw [List.zipIdx_cons, List.filterMap_cons]
    split
    · exact (ih (n + 1)).cons n
    next a ha =>
      rw [List.map_cons, h _ a ha]
      exact (ih (n + 1)).cons_cons n

/-- Positions are counted from 0 and line numbers from 1. -/
theorem map_succ_sublist {ns : List Nat} {n : Nat} (h : ns.Sublist (List.range' 0 n)) :
    (ns.map (· + 1)).Sublist (List.range' 1 n) := by
  have hmap := h.map (1 + ·)
  rw [List.map_add_range'] at hmap
  simpa only [Nat.add_comm 1] using hmap

theorem unusedImports_sublist (ls : List Line) :
    ((unusedImports ls).map (·.2 + 1)).Sublist (List.range' 1 ls.length) := by
  have hpos : ((unusedImports ls).map (·.2)).Sublist (List.range' 0 ls.length) := by
    refine filterMap_zipIdx_sublist (fun p a ha => ?_) 0 ls
    dsimp only at ha
    split at ha
    next => cases ha
    next =>
      split at ha
      · cases ha
      · cases ha
        rfl
  have hline := map_succ_sublist hpos
  rwa [List.map_map] at hline

/-- A scan that reports one issue. -/
theorem reports_scan {eval : List Line → List Nat} {issue : Issue} (hissue : issue.IsKnown)
    (hline : ∀ ls, (eval ls).Sublist (List.range' 1 ls.length)) :
    (ofLines name summary fun ls => (eval ls).map fun n => issue.atLine n).Reports (· < ·) := by
  refine reports_of_sublist (fun _ => hissue) fun ls => ?_
  rw [List.map_id']
  exact hline ls

theorem reports_onLines {issue : Issue} (hissue : issue.IsKnown) (fits : Line → Bool) :
    (ofLines name summary (issue.onLines fits)).Reports (· < ·) := by
  have hmap (ls : List Line) : issue.onLines fits ls =
      ((ls.zipIdx 1).filter fun p => fits p.1).map fun p => issue.atLine p.2 := by
    rw [Issue.onLines, ← List.filterMap_eq_map', List.filterMap_filter]
  have heval : issue.onLines fits = fun ls =>
      ((ls.zipIdx 1).filter fun p => fits p.1).map fun p => issue.atLine p.2 := funext hmap
  rw [heval]
  refine reports_of_sublist (fun _ => hissue) fun ls => ?_
  rw [← List.zipIdx_map_snd]
  exact List.filter_sublist.map _

/-! ## Declarations -/

theorem firstDeclarations_sublist (seen : List (List Char)) (ds : List Declared) :
    (firstDeclarations seen ds).Sublist ds := by
  induction ds generalizing seen with
  | nil => exact .slnil
  | cons d ds ih =>
    rw [firstDeclarations]
    split
    · exact (ih seen).cons d
    · exact (ih (d.name :: seen)).cons_cons d

theorem unusedVariables_sublist (ls : List Line) : (unusedVariables ls).Sublist (declarations ls) :=
  List.filter_sublist.trans (firstDeclarations_sublist [] _)

theorem pos_lt_of_mem_declarations {ls : List Line} {d : Declared} (h : d ∈ declarations ls) :
    d.pos < ls.length := by
  obtain ⟨⟨l, i⟩, hl, hd⟩ := List.mem_flatMap.mp h
  obtain ⟨name, -, rfl⟩ := List.mem_map.mp hd
  obtain ⟨hi, -⟩ := List.mem_zipIdx' hl
  exact hi

/-- Every name of a line is declared at its position, and the lines come in order. -/
theorem declarations_pairwise (ls : List Line) :
    (declarations ls).Pairwise fun d d' => d.pos ≤ d'.pos := by
  have hlines : ls.zipIdx.Pairwise fun p p' => p.2 < p'.2 := by
    rw [← List.pairwise_map, List.zipIdx_map_snd]
    exact List.pairwise_lt_range' 1
  refine List.pairwise_flatMap.mpr ⟨fun p _ => ?_, hlines.imp fun hlt d hd d' hd' => ?_⟩
  · exact List.pairwise_map.mpr (List.pairwise_of_forall fun _ _ => Nat.le_refl _)
  · obtain ⟨name, -, rfl⟩ := List.mem_map.mp hd
    obtain ⟨name', -, rfl⟩ := List.mem_map.mp hd'
    exact Nat.le_of_lt hlt

end Scanners

theorem isKnown_unusedVariableIssue (name : List Char) : (unusedVariableIssue name).IsKnown :=
  ⟨(by decide : Category.warning ∈ Category.known), (by decide : Severity.low ∈ Severity.known)⟩

theorem isKnown_unusedImportIssue (name : List Char) : (unusedImportIssue name).IsKnown :=
  ⟨(by decide : Category.warning ∈ Category.known), (by decide : Severity.low ∈ Severity.known)⟩

theorem reports_unusedVariable : unusedVariable.Reports (· ≤ ·) := by
  refine reports_map (fun d => isKnown_unusedVariableIssue d.name) (fun ls d hd => ?_) fun ls => ?_
  · have hpos := pos_lt_of_mem_declarations ((unusedVariables_sublist ls).subset hd)
    omega
  · exact ((declarations_pairwise ls).sublist (unusedVariables_sublist ls)).imp fun hle => by omega

theorem Standard.reports {rule : Rule} (h : rule.Standard) (hbraces : rule ≠ unmatchedBraces)
    (hvariable : rule ≠ unusedVariable) : rule.Reports (· < ·) := by
  cases h with
  | pack hcompile =>
    obtain ⟨issue, pattern, exclude, hissue, rfl⟩ := PatternSource.exists_of_compile hcompile
    exact reports_onLines hissue _
  | builtin hmem =>
    simp only [builtins, List.mem_cons, List.not_mem_nil, or_false] at hmem
    rcases hmem with rfl | rfl | rfl | rfl | rfl | rfl | rfl | rfl | rfl | rfl | rfl | rfl | rfl
    · exact reports_onLines (by decide) _
    · exact reports_onLines (by decide) _
    · exact reports_onLines (by decide) _
    · exact reports_onLines (by decide) _
    · exact absurd rfl hbraces
    · exact reports_onLines (by decide) _
    · exact reports_onLines (by decide) _
    · exact reports_scan (by decide) (nestedLoops_sublist 0 1)
    · exact reports_scan (by decide) (concatsInLoop_sublist none 1)
    · exact reports_scan (by decide) (unreachableLines_sublist false 0 1)
    · exact reports_of_sublist (fun _ => by decide) fun ls =>
        map_succ_sublist (infiniteLoops_sublist ls 0 false 0 ls)
    · exact absurd rfl hvariable
    · exact reports_of_sublist (fun p => isKnown_unusedImportIssue p.1) unusedImports_sublist

theorem Reports.mono {R R' : Int → Int → Prop} {rule : Rule} (h : rule.Reports R)
    (hR : ∀ {m n}, R m n → R' m n) : rule.Reports R' := by
  intro ctx
  obtain ⟨fs, hcheck, hfs, horder⟩ := h ctx
  exact ⟨fs, hcheck, hfs, horder.imp hR⟩

theorem Standard.reports_le {rule : Rule} (h : rule.Standard) (hbraces : rule ≠ unmatchedBraces) :
    rule.Reports (· ≤ ·) := by
  by_cases hvariable : rule = unusedVariable
  · exact hvariable ▸ reports_unusedVariable
  · exact (h.reports hbraces hvariable).mono Int.le_of_lt

/-- Unmatched braces are reported once if at all, and at no line. -/
theorem check_unmatchedBraces (ctx : Context) : unmatchedBraces.check ctx = .ok [] ∨
    unmatchedBraces.check ctx = .ok [unmatchedBracesIssue.atLine 0] := by
  dsimp only [unmatchedBraces]
  split
  · exact .inl rfl
  · exact .inr rfl

/-- Rules that are built in or written in a pack do not fail, and their findings have a known category
and a known severity. -/
theorem Standard.known {rule : Rule} (h : rule.Standard) (ctx : Context) :
    ∃ fs, rule.check ctx = .ok fs ∧ ∀ f ∈ fs, f.IsKnown := by
  by_cases hbraces : rule = unmatchedBraces
  · subst hbraces
    have hissue : unmatchedBracesIssue.IsKnown := by decide
    rcases check_unmatchedBraces ctx with hcheck | hcheck
    · exact ⟨_, hcheck, by simp⟩
    · exact ⟨_, hcheck, by simp [hissue.atLine 0]⟩
  · obtain ⟨fs, hcheck, hfs, -⟩ := h.reports_le hbraces ctx
    exact ⟨fs, hcheck, fun f hf => (hfs f hf).1⟩

/-! ## Line numbers -/

/-- Findings of a rule on a text with so many lines that stand on lines of it, in order. -/
structure LinesInOrder (rule : Rule) (lines : Nat) (fs : List Finding) : Prop where
  /-- Only unmatched braces are reported for the file as a whole, and at most once. -/
  whole_file : rule = unmatchedBraces → fs.length ≤ 1 ∧ ∀ f ∈ fs, f.line = 0
  in_range : rule ≠ unmatchedBraces → ∀ f ∈ fs, 1 ≤ f.line ∧ f.line ≤ lines
  ascending : fs.Pairwise fun f g => f.line ≤ g.line
  /-- Only variables are reported more than once on a line. -/
  strict : rule ≠ unusedVariable → fs.Pairwise fun f g => f.line < g.line

theorem LinesInOrder.stamp {rule : Rule} {lines : Nat} {fs : List Finding}
    (h : rule.LinesInOrder lines fs) (name : String) :
    rule.LinesInOrder lines (fs.map (·.stamp name)) where
  whole_file := by simpa using h.whole_file
  in_range := by simpa using h.in_range
  ascending := by simpa [List.pairwise_map] using h.ascending
  strict := by simpa [List.pairwise_map] using h.strict

theorem Standard.linesInOrder_check {rule : Rule} (h : rule.Standard) (ctx : Context) :
    ∃ fs, rule.check ctx = .ok fs ∧ rule.LinesInOrder ctx.lines.length fs := by
  by_cases hbraces : rule = unmatchedBraces
  · subst hbraces
    rcases check_unmatchedBraces ctx with hcheck | hcheck
    · exact ⟨_, hcheck, by simp, by simp, .nil, fun _ => .nil⟩
    · exact ⟨_, hcheck, by simp, by simp, List.pairwise_singleton _ _,
        fun _ => List.pairwise_singleton _ _⟩
  · obtain ⟨fs, hcheck, hfs, horder⟩ := h.reports_le hbraces ctx
    refine ⟨fs, hcheck, fun heq => absurd heq hbraces, fun _ f hf => (hfs f hf).2, horder, ?_⟩
    intro hvariable
    obtain ⟨fs', hcheck', -, horder'⟩ := h.reports hbraces hvariable ctx
    rw [hcheck] at hcheck'
    cases hcheck'
    exact horder'

/-- **Line numbers.** A rule that is built in or written in a pack reports on lines of the text, from top
to bottom. -/
theorem Standard.linesInOrder {rule : Rule} (h : rule.Standard) (source filename : String) :
    ∃ fs, rule.apply (.ofSource source filename) = .ok fs ∧
      rule.LinesInOrder (Source.lines source.toList).length fs := by
  obtain ⟨fs, hcheck, hfs⟩ := h.linesInOrder_check (.ofSource source filename)
  exact ⟨_, congrArg (Except.map _) hcheck, hfs.stamp rule.name⟩

/-- Two variables that are declared on one line. -/
theorem linesInOrder_unusedVariable : unusedVariable.Standard ∧
    ∃ fs, unusedVariable.apply (.ofSource "int b, c;" "A.java") = .ok fs ∧ fs.map (·.line) = [1, 1] ∧
      unusedVariable.LinesInOrder (Source.lines "int b, c;".toList).length fs := by
  have h : unusedVariable.Standard := .builtin (by simp [builtins])
  obtain ⟨fs, hfs, horder⟩ := h.linesInOrder "int b, c;" "A.java"
  have hlines : ((unusedVariable.apply (.ofSource "int b, c;" "A.java")).map
      (·.map (·.line))).toOption = some [1, 1] := by decide +kernel
  rw [hfs] at hlines
  exact ⟨h, fs, hfs, Option.some.inj hlines, horder⟩

end Rule

end JavaReview
