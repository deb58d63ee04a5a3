import JavaReview.Proofs.Rule.AfterExit
import JavaReview.Proofs.Rule.BlockExtent
import JavaReview.Proofs.Source.LineEnds

/-!
The braces of a text, counted line by line. Lines keep all of a text but its line ends, so the deltas of the
lines sum to the opening braces of the text less its closing ones (`braceTotal_lines`). Main statement: what
lines keep of a text, and that unmatched braces are reported exactly if these deltas, which the rules on
blocks go by, do not sum to zero (`lines_keepText`). Where such a rule reads code only, the braces of line
comments are missing from its sum (`sum_codeDeltaAt_add`).
-/

namespace JavaReview

/-! ## Braces -/

theorem Line.braceDelta_append (l m : Line) :
    Line.braceDelta (l ++ m) = l.braceDelta + m.braceDelta := by
  rw [Line.braceDelta, Line.braceDelta, Line.braceDelta, List.count_append, List.count_append]
  omega

/-- The part of a line from its line comment on. -/
def Line.comment (l : Line) : Line := l.drop l.code.length

theorem Line.code_append_comment (l : Line) : l.code ++ l.comment = l := by
  have hcode : l.code <+: l := Text.before_isPrefix ['/', '/'] l
  exact (List.prefix_append_drop hcode).symm

namespace Rule

section Totals

variable (ls : List Line)

/-- The opening braces less the closing ones in the line comment of a line. -/
def commentDeltaAt (i : Nat) : Int := (lineAt ls i).comment.braceDelta

/-- The sum of the brace deltas of all lines. -/
def braceTotal : Int := ∑ k ∈ Finset.range ls.length, deltaAt ls k

theorem braceTotal_eq_braceDelta : braceTotal ls = Line.braceDelta ls.flatten := by
  rw [braceTotal]
  induction ls with
  | nil => rfl
  | cons l ls ih =>
    have hbelow : ∀ k, deltaAt (l :: ls) (k + 1) = deltaAt ls k := fun _ => rfl
    have hfirst : deltaAt (l :: ls) 0 = l.braceDelta := rfl
    rw [List.length_cons, Finset.sum_range_succ', hfirst, List.flatten_cons, Line.braceDelta_append, ← ih,
      Int.add_comm]
    simp only [hbelow]

/-- A line is its code and its line comment, so the braces of the comments are what code lacks. -/
theorem sum_codeDeltaAt_add : ∑ k ∈ Finset.range ls.length, codeDeltaAt ls k +
    ∑ k ∈ Finset.range ls.length, commentDeltaAt ls k = braceTotal ls := by
  rw [← Finset.sum_add_distrib, braceTotal]
  refine Finset.sum_congr rfl fun k _ => ?_
  rw [deltaAt, ← Line.code_append_comment (lineAt ls k), Line.braceDelta_append]
  rfl

end Totals

theorem braceTotal_lines (s : List Char) :
    braceTotal (Source.lines s) = (s.count '\x7b' : Int) - (s.count '\x7d' : Int) := by
  rw [braceTotal_eq_braceDelta, Line.braceDelta, Source.count_flatten_lines (by decide) (by decide),
    Source.count_flatten_lines (by decide) (by decide)]

/-- A rule that reports something. -/
def Fires (rule : Rule) (ctx : Context) : Prop := ∃ f fs, rule.apply ctx = .ok (f :: fs)

theorem fires_unmatchedBraces_iff {ctx : Context} :
    unmatchedBraces.Fires ctx ↔ ctx.source.count '\x7b' ≠ ctx.source.count '\x7d' := by
  rw [Fires, apply, unmatchedBraces]
  by_cases heq : ctx.source.count '\x7b' = ctx.source.count '\x7d'
  · simp [heq, Except.map]
  · simp [heq, Except.map]

/-- What lines keep of a text. -/
structure KeepsText (s : List Char) (ls : List Line) : Prop where
  no_feed : ∀ l ∈ ls, '\n' ∉ l
  joined : '\r' ∉ s → Text.joinWith ['\n'] ls = s.rdropWhile (· = '\n')
  eq_nil_iff : ls = [] ↔ ∀ c ∈ s, c = '\n'
  braces : braceTotal ls = (s.count '\x7b' : Int) - (s.count '\x7d' : Int)

theorem keepsText_lines (s : List Char) : KeepsText s (Source.lines s) where
  no_feed _ := Source.feed_notMem_of_mem_lines
  joined := Source.joinWith_lines
  eq_nil_iff := Source.lines_eq_nil_iff s
  braces := braceTotal_lines s

/-- **Lines.** No line has a line feed. Without carriage returns the lines join to the text, up to the line
feeds at its end, and there is none exactly if the text is line feeds only. The deltas of the lines sum to
the opening braces of the text less its closing ones, so unmatched braces are reported exactly if the sum is
not zero. The sum is also the balance that the rule on statements after an exit comes to with the last line.
In a search for blocks, which reads code only, it is less by the deltas of the line comments. -/
theorem lines_keepText (source filename : String) :
    KeepsText source.toList (Source.lines source.toList) ∧
    (unmatchedBraces.Fires (.ofSource source filename) ↔ braceTotal (Source.lines source.toList) ≠ 0) ∧
    ∀ ls : List Line, (exitStateAt ls ls.length).2 = braceTotal ls ∧
      ∑ k ∈ Finset.range ls.length, codeDeltaAt ls k =
        braceTotal ls - ∑ k ∈ Finset.range ls.length, commentDeltaAt ls k := by
  refine ⟨keepsText_lines source.toList, ?_, fun ls => ⟨balance_exitStateAt (Nat.le_refl _), ?_⟩⟩
  · have hsource : (Context.ofSource source filename).source = source.toList := rfl
    rw [fires_unmatchedBraces_iff, hsource, braceTotal_lines]
    omega
  · rw [← sum_codeDeltaAt_add, Int.add_sub_cancel]

end Rule

end JavaReview
