import JavaReview.Proofs.Rule.LineScan
import JavaReview.Proofs.Source.LineEnds
import JavaReview.Proofs.Text.Parts
import JavaReview.Proofs.Text.Pieces

/-!
Uses that are not seen. A name may have dollar signs in it, and a line names a variable where the name
stands apart from all characters of names (`NamedIn`). The rule looks for the name between two word
boundaries, and a dollar sign is no character of a word: at an end with a dollar sign the name is found
where it joins a word, and there only (`hasWord_iff_foundIn`). So a variable that another line names is
reported only if its name starts or ends with a dollar sign, and every such name is reported in some text
that uses it (`MissesUse`).
-/

namespace JavaReview.Rule

open Text

/-! ## Names -/

/-- The name stands in the text, and no character of a name stands next to it. -/
def NamedIn (x s : List Char) : Prop :=
  ∃ u v, s = u ++ (x ++ v) ∧ (∀ c ∈ u.getLast?, isNamePart c = false) ∧
    ∀ c ∈ v.head?, isNamePart c = false

/-- The name stands in the text, and at either end a character of a word stands next to it exactly if the
name has a dollar sign there. -/
def FoundIn (x s : List Char) : Prop :=
  ∃ u v, s = u ++ (x ++ v) ∧ (u.getLast?.any isWordChar = true ↔ x.head? = some '$') ∧
    (v.head?.any isWordChar = true ↔ x.getLast? = some '$')

def HasDollarEnd (x : List Char) : Prop := x.head? = some '$' ∨ x.getLast? = some '$'

theorem isNamePart_eq_true_iff {c : Char} : isNamePart c = true ↔ isWordChar c = true ∨ c = '$' := by
  simp [isNamePart, isWordChar]

theorem isWordChar_of_isNamePart {c : Char} (h : isNamePart c = true) : isWordChar c = true ↔ c ≠ '$' := by
  constructor
  · rintro hword rfl
    exact absurd hword (by decide)
  · exact (isNamePart_eq_true_iff.mp h).resolve_right

theorem isNamePart_of_mem {x : List Char} (hx : isName x = true) {c : Char} (hc : c ∈ x) :
    isNamePart c = true := by
  cases x with
  | nil => cases hc
  | cons a r =>
    rw [isName, Bool.and_eq_true, List.all_eq_true] at hx
    rcases List.mem_cons.mp hc with rfl | hc
    · have hstart := hx.1
      simp only [isNameStart, isNamePart, Char.isAlphanum, Bool.or_eq_true] at hstart ⊢
      tauto
    · exact hx.2 c hc

theorem ne_nil_of_isName {x : List Char} (hx : isName x = true) : x ≠ [] := by
  rintro rfl
  cases hx

/-- A boundary next to a character of a name. -/
theorem wordBoundary_iff {a : Option Char} {c : Char} (hc : isNamePart c = true) :
    wordBoundary a (some c) = true ↔ (a.any isWordChar = true ↔ c = '$') := by
  have hword := isWordChar_of_isNamePart hc
  rw [wordBoundary, Option.any_some, bne_iff_ne, Ne, Bool.eq_iff_iff, hword]
  tauto

theorem wordBoundary_comm (a b : Option Char) : wordBoundary a b = wordBoundary b a := by
  rw [wordBoundary, wordBoundary, bne_comm]

/-! ## Words -/

/-- Whether the text starts with the name, between two boundaries. -/
def startsWord (x : List Char) (prev : Option Char) (s : List Char) : Bool :=
  wordBoundary prev s.head? &&
    match eat? x s with
    | none => false
    | some r => wordBoundary (x.getLast?.or prev) r.head?

theorem hasWordFrom_nil (x : List Char) (prev : Option Char) :
    hasWordFrom x prev [] = startsWord x prev [] := by
  rw [hasWordFrom, Bool.or_false]
  rfl

theorem hasWordFrom_cons (x : List Char) (prev : Option Char) (c : Char) (r : List Char) :
    hasWordFrom x prev (c :: r) = (startsWord x prev (c :: r) || hasWordFrom x (some c) r) := by
  rw [hasWordFrom]
  rfl

theorem startsWord_iff {x : List Char} (hne : x ≠ []) {prev : Option Char} {s : List Char} :
    startsWord x prev s = true ↔
      ∃ v, s = x ++ v ∧ wordBoundary prev x.head? = true ∧ wordBoundary x.getLast? v.head? = true := by
  have hhead (v : List Char) : (x ++ v).head? = x.head? := List.head?_append_of_ne_nil x hne
  have hlast : x.getLast?.or prev = x.getLast? := by
    rw [List.getLast?_eq_some_getLast hne]
    rfl
  rw [startsWord, Bool.and_eq_true, hlast]
  constructor
  · rintro ⟨hstart, hend⟩
    split at hend
    next => cases hend
    next v heat =>
      cases eat?_eq_some_iff.mp heat
      rw [hhead] at hstart
      exact ⟨v, rfl, hstart, hend⟩
  · rintro ⟨v, rfl, hstart, hend⟩
    rw [hhead, eat?_append]
    exact ⟨hstart, hend⟩

theorem hasWordFrom_iff {x : List Char} (hne : x ≠ []) {prev : Option Char} {s : List Char} :
    hasWordFrom x prev s = true ↔ ∃ u v, s = u ++ (x ++ v) ∧
      wordBoundary (u.getLast?.or prev) x.head? = true ∧ wordBoundary x.getLast? v.head? = true := by
  induction s generalizing prev with
  | nil =>
    rw [hasWordFrom_nil, startsWord_iff hne]
    constructor
    · rintro ⟨v, hs, hword⟩
      exact ⟨[], v, hs, hword⟩
    · rintro ⟨u, v, hs, hword⟩
      obtain ⟨rfl, -⟩ := List.append_eq_nil_iff.mp hs.symm
      exact ⟨v, hs, hword⟩
  | cons c r ih =>
    have hlast (u : List Char) : (c :: u).getLast?.or prev = u.getLast?.or (some c) := by
      rw [List.getLast?_cons]
      cases u.getLast? <;> rfl
    rw [hasWordFrom_cons, Bool.or_eq_true, startsWord_iff hne, ih]
    constructor
    · rintro (⟨v, hs, hword⟩ | ⟨u, v, rfl, hword⟩)
      · exact ⟨[], v, hs, hword⟩
      · refine ⟨c :: u, v, rfl, ?_⟩
        rwa [hlast]
    · rintro ⟨u, v, hs, hword⟩
      cases u with
      | nil => exact .inl ⟨v, hs, hword⟩
      | cons a u =>
        cases hs
        rw [hlast] at hword
        exact .inr ⟨u, v, rfl, hword⟩

theorem hasWord_iff_foundIn {x s : List Char} (hx : isName x = true) :
    hasWord x s = true ↔ FoundIn x s := by
  have hne := ne_nil_of_isName hx
  have hfirst := isNamePart_of_mem hx (List.head_mem hne)
  have hlast := isNamePart_of_mem hx (List.getLast_mem hne)
  rw [hasWord, hasWordFrom_iff hne, FoundIn]
  simp only [Option.or_none, List.head?_eq_some_head hne, List.getLast?_eq_some_getLast hne,
    wordBoundary_iff hfirst, wordBoundary_comm (some _), wordBoundary_iff hlast, Option.some_inj]

/-- A name without a dollar sign at its ends is found wherever it is named. -/
theorem NamedIn.foundIn {x s : List Char} (h : NamedIn x s) (hx : ¬ HasDollarEnd x) : FoundIn x s := by
  have hword {a : Option Char} (ha : ∀ c ∈ a, isNamePart c = false) : ¬ a.any isWordChar = true := by
    intro hany
    cases a with
    | none => cases hany
    | some c =>
      have hpart := isNamePart_eq_true_iff.mpr (.inl hany)
      rw [ha c rfl] at hpart
      cases hpart
  obtain ⟨u, v, hs, hu, hv⟩ := h
  rw [HasDollarEnd, not_or] at hx
  exact ⟨u, v, hs, iff_of_false (hword hu) hx.1, iff_of_false (hword hv) hx.2⟩

theorem not_foundIn_nil {x : List Char} (hx : isName x = true) : ¬ FoundIn x [] := by
  rintro ⟨u, v, hs, -⟩
  obtain ⟨-, hxv⟩ := List.append_eq_nil_iff.mp hs.symm
  exact ne_nil_of_isName hx (List.append_eq_nil_iff.mp hxv).1

/-! ## Declarations -/

theorem isName_of_mem_namesDeclaredOn {l : Line} {x : List Char} (h : x ∈ namesDeclaredOn l) :
    isName x = true := by
  rw [namesDeclaredOn] at h
  split at h
  · cases h
  · split at h
    · cases h
    · obtain ⟨part, -, hpart⟩ := List.mem_filterMap.mp h
      exact (Option.filter_eq_some_iff.mp hpart).2

/-- A line that declares the name, no line above it doing so. -/
def DeclaresFirst (ls : List Line) (x : List Char) (i : Nat) : Prop :=
  x ∈ namesDeclaredOn (lineAt ls i) ∧ ∀ k < i, x ∉ namesDeclaredOn (lineAt ls k)

variable {ls : List Line} {x : List Char} {i : Nat}

theorem mem_declarations_iff : ⟨x, i⟩ ∈ declarations ls ↔ x ∈ namesDeclaredOn (lineAt ls i) := by
  rw [declarations, List.mem_flatMap]
  constructor
  · rintro ⟨⟨l, k⟩, hl, hx⟩
    obtain ⟨y, hy, heq⟩ := List.mem_map.mp hx
    cases heq
    obtain ⟨-, rfl⟩ := mem_zipIdx_iff_lineAt.mp hl
    exact hy
  · intro hx
    have hnone : namesDeclaredOn [] = [] := by decide
    have hi := lt_length_of_lineAt (p := fun l => x ∈ namesDeclaredOn l) (by simp [hnone]) hx
    exact ⟨(lineAt ls i, i), mem_zipIdx_iff_lineAt.mpr ⟨hi, rfl⟩, List.mem_map_of_mem hx⟩

/-- What is kept of declarations are those that are the first of their name. -/
theorem mem_firstDeclarations_iff {seen : List (List Char)} {ds : List Declared} {d : Declared} :
    d ∈ firstDeclarations seen ds ↔ d.name ∉ seen ∧
      ∃ above below, ds = above ++ d :: below ∧ ∀ e ∈ above, e.name ≠ d.name := by
  induction ds generalizing seen with
  | nil => simp [firstDeclarations]
  | cons e ds ih =>
    rw [firstDeclarations]
    split
    next hseen =>
      rw [ih]
      refine and_congr_right fun hd => ?_
      have hne : e.name ≠ d.name := by
        intro heq
        exact hd (heq ▸ hseen)
      constructor
      · rintro ⟨above, below, rfl, habove⟩
        exact ⟨e :: above, below, rfl, List.forall_mem_cons.mpr ⟨hne, habove⟩⟩
      · rintro ⟨above, below, hds, habove⟩
        cases above with
        | nil =>
          cases hds
          exact absurd rfl hne
        | cons a above =>
          cases hds
          exact ⟨above, below, rfl, (List.forall_mem_cons.mp habove).2⟩
    next hnew =>
      rw [List.mem_cons, ih]
      constructor
      · rintro (rfl | ⟨hd, above, below, rfl, habove⟩)
        · exact ⟨hnew, [], ds, rfl, List.forall_mem_nil _⟩
        · rw [List.mem_cons, not_or] at hd
          refine ⟨hd.2, e :: above, below, rfl, List.forall_mem_cons.mpr ⟨?_, habove⟩⟩
          exact Ne.symm hd.1
      · rintro ⟨hd, above, below, hds, habove⟩
        cases above with
        | nil =>
          cases hds
          exact .inl rfl
        | cons a above =>
          cases hds
          obtain ⟨hne, habove⟩ := List.forall_mem_cons.mp habove
          refine .inr ⟨?_, above, below, rfl, habove⟩
          rw [List.mem_cons, not_or]
          exact ⟨Ne.symm hne, hd⟩

/-- The declarations come in the order of their lines, so a name that is declared below another is declared
on a line below. -/
theorem le_of_mem_below {above below : List Declared} {d : Declared}
    (h : declarations ls = above ++ d :: below) {e : Declared} (he : e ∈ below) : d.pos ≤ e.pos := by
  have hordered := declarations_pairwise ls
  rw [h] at hordered
  exact List.rel_of_pairwise_cons (List.pairwise_append.mp hordered).2.1 he

theorem mem_firstDeclarations_declarations_iff :
    ⟨x, i⟩ ∈ firstDeclarations [] (declarations ls) ↔ DeclaresFirst ls x i := by
  rw [mem_firstDeclarations_iff, and_iff_right List.not_mem_nil]
  constructor
  · rintro ⟨above, below, hds, habove⟩
    have hmem : ⟨x, i⟩ ∈ declarations ls := by
      rw [hds]
      exact List.mem_append_right above List.mem_cons_self
    refine ⟨mem_declarations_iff.mp hmem, fun k hk hdeclared => ?_⟩
    have hother := mem_declarations_iff.mpr hdeclared
    rw [hds, List.mem_append, List.mem_cons] at hother
    rcases hother with hother | heq | hother
    · exact habove _ hother rfl
    · cases heq
      exact Nat.lt_irrefl _ hk
    · exact absurd (le_of_mem_below hds hother) (Nat.not_le.mpr hk)
  · rintro ⟨hdeclared, hfirst⟩
    have hmem := mem_declarations_iff.mpr hdeclared
    have hsome : ((declarations ls).find? fun e => decide (e.name = x)).isSome = true :=
      List.find?_isSome.mpr ⟨_, hmem, decide_eq_true rfl⟩
    obtain ⟨⟨y, k⟩, hfind⟩ := Option.isSome_iff_exists.mp hsome
    obtain ⟨hname, above, below, hds, habove⟩ := List.find?_eq_some_iff_append.mp hfind
    cases of_decide_eq_true hname
    -- The first one that is found is on no line above, and the one at hand is not above it.
    have hk : k = i := by
      have hfound : ⟨y, k⟩ ∈ declarations ls := by
        rw [hds]
        exact List.mem_append_right above List.mem_cons_self
      have hle : i ≤ k := Nat.le_of_not_lt fun hlt => hfirst k hlt (mem_declarations_iff.mp hfound)
      rw [hds, List.mem_append, List.mem_cons] at hmem
      rcases hmem with hmem | heq | hmem
      · exact absurd (habove _ hmem) (by simp)
      · cases heq
        rfl
      · exact Nat.le_antisymm (le_of_mem_below hds hmem) hle
    subst hk
    refine ⟨above, below, hds, fun e he => ?_⟩
    simpa using habove e he

/-! ## Reports -/

/-- A line other than the one at a position that names the variable. -/
def NamedElsewhere (ls : List Line) (x : List Char) (i : Nat) : Prop :=
  ∃ k, k ≠ i ∧ NamedIn x (lineAt ls k).code

/-- A line other than the one at a position on which the rule finds the variable. -/
def FoundElsewhere (ls : List Line) (x : List Char) (i : Nat) : Prop :=
  ∃ k, k ≠ i ∧ FoundIn x (lineAt ls k).code

theorem isUsed_eq_true_iff (hx : isName x = true) :
    isUsed ls ⟨x, i⟩ = true ↔ FoundElsewhere ls x i := by
  rw [isUsed, List.any_eq_true]
  constructor
  · rintro ⟨⟨l, k⟩, hl, hused⟩
    obtain ⟨-, rfl⟩ := mem_zipIdx_iff_lineAt.mp hl
    rw [Bool.and_eq_true, bne_iff_ne, hasWord_iff_foundIn hx] at hused
    exact ⟨k, hused⟩
  · rintro ⟨k, hk, hfound⟩
    have hlt := lt_length_of_lineAt (p := fun l => FoundIn x l.code) (not_foundIn_nil hx) hfound
    refine ⟨(lineAt ls k, k), mem_zipIdx_iff_lineAt.mpr ⟨hlt, rfl⟩, ?_⟩
    rw [Bool.and_eq_true, bne_iff_ne, hasWord_iff_foundIn hx]
    exact ⟨hk, hfound⟩

theorem mem_unusedVariables_iff :
    ⟨x, i⟩ ∈ unusedVariables ls ↔ DeclaresFirst ls x i ∧ ¬ FoundElsewhere ls x i := by
  rw [unusedVariables, List.mem_filter, mem_firstDeclarations_declarations_iff]
  refine and_congr_right fun hdeclared => ?_
  rw [Bool.not_eq_true', ← Bool.not_eq_true,
    isUsed_eq_true_iff (isName_of_mem_namesDeclaredOn hdeclared.1)]

/-- The rule reports the variable at a position. -/
def ReportsVariable (ctx : Context) (x : List Char) (i : Nat) : Prop :=
  ∃ fs, unusedVariable.apply ctx = .ok fs ∧
    ((unusedVariableIssue x).atLine (i + 1)).stamp unusedVariable.name ∈ fs

/-- The text of a finding tells the variable, and its line where that is declared. -/
theorem unusedVariable_finding_inj {x y : List Char} {m n : Nat} {name : String}
    (h : ((unusedVariableIssue x).atLine m).stamp name = ((unusedVariableIssue y).atLine n).stamp name) :
    x = y ∧ m = n := by
  have hdescription := congrArg (fun f => f.description.toList) h
  have hline := congrArg Finding.line h
  rw [Finding.line_stamp, Finding.line_stamp, Issue.line_atLine, Issue.line_atLine] at hline
  refine ⟨?_, Int.ofNat.inj hline⟩
  simp only [Finding.stamp, Issue.atLine, unusedVariableIssue, if_true, String.toList_append,
    String.toList_ofList] at hdescription
  exact List.append_cancel_left (List.append_cancel_right hdescription)

theorem reportsVariable_iff {ctx : Context} :
    ReportsVariable ctx x i ↔ DeclaresFirst ctx.lines x i ∧ ¬ FoundElsewhere ctx.lines x i := by
  rw [← mem_unusedVariables_iff]
  constructor
  · rintro ⟨fs, hfs, hf⟩
    cases hfs
    obtain ⟨g, hg, heq⟩ := List.mem_map.mp hf
    obtain ⟨⟨y, k⟩, hd, rfl⟩ := List.mem_map.mp hg
    obtain ⟨rfl, hk⟩ := unusedVariable_finding_inj heq
    cases Nat.succ.inj hk
    exact hd
  · intro hd
    refine ⟨_, rfl, List.mem_map.mpr ⟨_, ?_, rfl⟩⟩
    exact List.mem_map.mpr ⟨⟨x, i⟩, hd, rfl⟩

/-! ## A declaration of every name -/

theorem isSpace_of_isNamePart {c : Char} (h : isNamePart c = true) : isSpace c = false := by
  have hwithin (first last : Char) (hfirst : 36 ≤ first.toNat) (hlast : last.toNat < 0x80)
      (hlo : first.val ≤ c.val) (hhi : c.val ≤ last.val) : isSpace c = false := by
    have hlo' : 36 ≤ c.toNat := Nat.le_trans hfirst hlo
    have hhi' : c.toNat < 0x80 := Nat.lt_of_le_of_lt hhi hlast
    simp [isSpace]
    omega
  rw [isNamePart, Bool.or_eq_true, Bool.or_eq_true, decide_eq_true_eq, decide_eq_true_eq] at h
  rcases h with (halphanum | rfl) | rfl
  · rcases Bool.or_eq_true_iff.mp halphanum with hletter | hdigit
    · rcases Bool.or_eq_true_iff.mp hletter with hupper | hlower
      · obtain ⟨hlo, hhi⟩ := of_decide_eq_true hupper
        exact hwithin 'A' 'Z' (by decide) (by decide) hlo hhi
      · obtain ⟨hlo, hhi⟩ := Bool.and_eq_true_iff.mp hlower
        exact hwithin 'a' 'z' (by decide) (by decide) (of_decide_eq_true hlo) (of_decide_eq_true hhi)
    · obtain ⟨hlo, hhi⟩ := Bool.and_eq_true_iff.mp hdigit
      exact hwithin '0' '9' (by decide) (by decide) (of_decide_eq_true hlo) (of_decide_eq_true hhi)
  · rfl
  · rfl

theorem code_of_slash_notMem {l : Line} (h : '/' ∉ l) : Line.code l = l :=
  before_of_not_isInfix fun hmarks => h (hmarks.subset List.mem_cons_self)

section Declaration

variable (hx : isName x = true)

include hx

theorem notMem_of_isName {c : Char} (hc : isNamePart c = false) : c ∉ x := by
  intro hmem
  rw [isNamePart_of_mem hx hmem] at hc
  cases hc

theorem noSpace_of_isName : ∀ c ∈ x, isSpace c = false :=
  fun _ hc => isSpace_of_isNamePart (isNamePart_of_mem hx hc)

theorem map_blankBracket_of_isName : x.map blankBracket = x := by
  refine (List.map_congr_left fun c hc => ?_).trans (List.map_id x)
  have hopen : c ≠ '[' := ne_of_mem_of_not_mem hc (notMem_of_isName hx (by decide))
  have hclose : c ≠ ']' := ne_of_mem_of_not_mem hc (notMem_of_isName hx (by decide))
  simp [blankBracket, hopen, hclose]

theorem declaredNames_of_isName : declaredNames x = [x] := by
  have hequals : ¬ ['='] <:+: x := fun h =>
    notMem_of_isName hx (by decide) (h.subset (List.mem_singleton_self '='))
  have hname : declaredName? x = some x := by
    rw [declaredName?, before_of_not_isInfix hequals, map_blankBracket_of_isName hx,
      words_of_noSpace (ne_nil_of_isName hx) (noSpace_of_isName hx)]
    simp [hx]
  rw [declaredNames, splitOn_of_notMem (notMem_of_isName hx (by decide))]
  simp [hname]

theorem exists_cons_of_isName : ∃ c r, x = c :: r ∧ isBlank c = false ∧ c ≠ '[' := by
  obtain ⟨c, r, rfl⟩ := List.exists_cons_of_ne_nil (ne_nil_of_isName hx)
  refine ⟨c, r, rfl, ?_, ?_⟩
  · rw [← Bool.not_eq_true]
    intro hblank
    have hspace := noSpace_of_isName hx c List.mem_cons_self
    rw [isSpace_of_isBlank hblank] at hspace
    cases hspace
  · exact ne_of_mem_of_not_mem List.mem_cons_self (notMem_of_isName hx (by decide))

/-- A name after a blank is what follows the brackets of a type, there being none. -/
theorem afterDimensions?_blank (n : Nat) : afterDimensions? n (' ' :: x) = some x := by
  obtain ⟨c, r, rfl, hblank, hbracket⟩ := exists_cons_of_isName hx
  have hname : afterBlanks? (c :: r) = none := by simp [afterBlanks?, hblank]
  have hblanks : afterBlanks? (' ' :: c :: r) = some (c :: r) := by
    rw [afterBlanks?, hname]
    rfl
  cases n with
  | zero => exact hblanks
  | succ n =>
    have hskip : skipBlanks (' ' :: c :: r) = c :: r := by
      simp [skipBlanks, List.dropWhile, hblank]
      rfl
    have hnone : afterBrackets? (' ' :: c :: r) = none := by
      rw [afterBrackets?, hskip, eat?, if_neg (Ne.symm hbracket)]
      rfl
    rw [afterDimensions?, hnone]
    exact hblanks

theorem declarators?_int : declarators? ("int ".toList ++ (x ++ [';'])) = some x := by
  have hbody : beforeSemicolon? ("int ".toList ++ (x ++ [';'])) = some ("int ".toList ++ x) := by
    simp [beforeSemicolon?, isBlank]
  have hkeyword : afterKeyword? ("int ".toList ++ x) = some x :=
    afterDimensions?_blank hx _
  have hstart : skipFinal (skipBlanks ("int ".toList ++ x)) = "int ".toList ++ x := rfl
  simp only [declarators?, hbody, Option.bind_eq_bind, Option.bind_some, hstart, hkeyword]
  rfl

theorem namesDeclaredOn_int : namesDeclaredOn ("int ".toList ++ (x ++ [';'])) = [x] := by
  have hslash : '/' ∉ "int ".toList ++ (x ++ [';']) := by
    simp [notMem_of_isName hx (by decide : isNamePart '/' = false)]
  have hcode := code_of_slash_notMem hslash
  have htrimmed : IsTrimmed ("int ".toList ++ (x ++ [';'])) := by
    constructor
    · intro c hc
      cases hc
      rfl
    · intro c hc
      rw [← List.append_assoc, List.getLast?_concat] at hc
      cases hc
      rfl
  have hlocal : (nonLocalStarts.any fun start => start.isPrefixOf
      (Line.statement ("int ".toList ++ (x ++ [';'])))) = false := by
    rw [Line.statement, hcode, htrimmed.trim_eq]
    rfl
  rw [namesDeclaredOn, hlocal, hcode, declarators?_int hx]
  exact declaredNames_of_isName hx

theorem lines_int : Source.lines (("int ".toList ++ (x ++ [';'])) ++ '\n' :: x) =
    ["int ".toList ++ (x ++ [';']), x] := by
  have hfeed := notMem_of_isName hx (by decide : isNamePart '\n' = false)
  have hreturn := notMem_of_isName hx (by decide : isNamePart '\r' = false)
  rw [Source.lines_of_notMem (by simp [hreturn]), splitOn_append_sep,
    splitOn_of_notMem (by simp [hfeed]), splitOn_of_notMem hfeed]
  exact Source.dropTrailingEmpty_concat (ne_nil_of_isName hx)

end Declaration

/-! ## Uses that are not seen -/

theorem namedIn_self (x : List Char) : NamedIn x x :=
  ⟨[], [], (List.append_nil x).symm, by simp, by simp⟩

/-- On a line of its own a name with a dollar sign at an end joins no word, so it is not found. -/
theorem not_foundIn_self (hdollar : HasDollarEnd x) : ¬ FoundIn x x := by
  rintro ⟨u, v, hs, hfirst, hlast⟩
  have hlength := congrArg List.length hs
  rw [List.length_append, List.length_append] at hlength
  have hu : u = [] := List.length_eq_zero_iff.mp (by omega)
  have hv : v = [] := List.length_eq_zero_iff.mp (by omega)
  subst hu hv
  rcases hdollar with hdollar | hdollar
  · cases hfirst.mpr hdollar
  · cases hlast.mpr hdollar

/-- Some text has a line that names the variable besides the one on which it is reported. -/
def MissesUse (x : List Char) : Prop :=
  ∃ source filename i, ReportsVariable (.ofSource source filename) x i ∧
    NamedElsewhere (Source.lines source.toList) x i

theorem hasDollarEnd_of_reportsVariable {ctx : Context} (h : ReportsVariable ctx x i)
    (hnamed : NamedElsewhere ctx.lines x i) : HasDollarEnd x := by
  by_contra hplain
  obtain ⟨k, hk, hline⟩ := hnamed
  exact (reportsVariable_iff.mp h).2 ⟨k, hk, hline.foundIn hplain⟩

/-- The name is declared on one line and stands alone on the next. -/
theorem missesUse_of_hasDollarEnd (hx : isName x = true) (hdollar : HasDollarEnd x) : MissesUse x := by
  have hcode := code_of_slash_notMem (notMem_of_isName hx (by decide))
  refine ⟨String.ofList (("int ".toList ++ (x ++ [';'])) ++ '\n' :: x), "A.java", 0, ?_, ?_⟩
  · rw [reportsVariable_iff, Context.ofSource, String.toList_ofList, lines_int hx]
    refine ⟨⟨?_, fun k hk => absurd hk (Nat.not_lt_zero k)⟩, ?_⟩
    · rw [lineAt, List.getElem?_cons_zero, Option.getD_some, namesDeclaredOn_int hx]
      exact List.mem_singleton_self x
    · rintro ⟨k, hk, hfound⟩
      rcases k with _ | _ | k
      · exact hk rfl
      · have hself : FoundIn x (Line.code x) := hfound
        rw [hcode] at hself
        exact not_foundIn_self hdollar hself
      · exact not_foundIn_nil hx hfound
  · rw [String.toList_ofList, lines_int hx]
    refine ⟨1, Nat.one_ne_zero, ?_⟩
    have hself : NamedIn x (Line.code x) := by
      rw [hcode]
      exact namedIn_self x
    exact hself

/-- A variable that is reported although another line names it has a name that starts or ends with a
dollar sign, and no other line is one on which it joins words at such ends. There are texts with such a
report for exactly those names. -/
theorem reportsVariable_and_named_iff (ctx : Context) (x : List Char) (i : Nat) :
    (ReportsVariable ctx x i ∧ NamedElsewhere ctx.lines x i ↔
      DeclaresFirst ctx.lines x i ∧ NamedElsewhere ctx.lines x i ∧ HasDollarEnd x ∧
        ¬ FoundElsewhere ctx.lines x i) ∧
    (MissesUse x ↔ isName x = true ∧ HasDollarEnd x) := by
  refine ⟨⟨?_, ?_⟩, ?_, ?_⟩
  · rintro ⟨hreported, hnamed⟩
    obtain ⟨hdeclared, hfound⟩ := reportsVariable_iff.mp hreported
    exact ⟨hdeclared, hnamed, hasDollarEnd_of_reportsVariable hreported hnamed, hfound⟩
  · rintro ⟨hdeclared, hnamed, -, hfound⟩
    exact ⟨reportsVariable_iff.mpr ⟨hdeclared, hfound⟩, hnamed⟩
  · rintro ⟨source, filename, k, hreported, hnamed⟩
    have hdeclared := (reportsVariable_iff.mp hreported).1.1
    exact ⟨isName_of_mem_namesDeclaredOn hdeclared, hasDollarEnd_of_reportsVariable hreported hnamed⟩
  · rintro ⟨hx, hdollar⟩
    exact missesUse_of_hasDollarEnd hx hdollar

/-- A use in an argument list, next to which no character of a word stands. -/
theorem reportsVariable_dollar_argument :
    ReportsVariable (.ofSource "int $x = 1;\nfoo($x);\n" "A.java") ['$', 'x'] 0 ∧
      NamedElsewhere (Source.lines "int $x = 1;\nfoo($x);\n".toList) ['$', 'x'] 0 := by
  have hunused : ⟨['$', 'x'], 0⟩ ∈ unusedVariables (Source.lines "int $x = 1;\nfoo($x);\n".toList) := by
    decide +kernel
  have hline : Line.code (lineAt (Source.lines "int $x = 1;\nfoo($x);\n".toList) 1) = "foo($x);".toList := by
    decide +kernel
  refine ⟨reportsVariable_iff.mpr (mem_unusedVariables_iff.mp hunused), 1, Nat.one_ne_zero, ?_⟩
  rw [hline]
  refine ⟨"foo(".toList, ");".toList, rfl, ?_, ?_⟩
  · intro c hc
    cases hc
    rfl
  · intro c hc
    cases hc
    rfl

end JavaReview.Rule
