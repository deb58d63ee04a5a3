import JavaReview.Proofs.Rule.UnusedVariables

/-!
Declarators and the names that they declare. A declarator is written as a name between white space, pairs
of brackets with white space in and after each, and what the variable is initialised with, in which no comma
stands (`Declarator`). Whatever the form of each, the names of declarators that are joined with commas are
read back, in order and without others (`declaredNames_joinWith`).
-/

namespace JavaReview.Rule

open Text

/-! ## Names -/

def IsLetter (c : Char) : Prop := 'A' ≤ c ∧ c ≤ 'Z' ∨ 'a' ≤ c ∧ c ≤ 'z'

def IsDigit (c : Char) : Prop := '0' ≤ c ∧ c ≤ '9'

/-- A letter, an underscore or a dollar sign, and then digits too. -/
inductive IsIdentifier : List Char → Prop
  | cons {c : Char} {r : List Char} : IsLetter c ∨ c = '_' ∨ c = '$' →
      (∀ d ∈ r, IsLetter d ∨ IsDigit d ∨ d = '_' ∨ d = '$') → IsIdentifier (c :: r)

theorem IsLetter.isAlpha {c : Char} (h : IsLetter c) : c.isAlpha = true := by
  apply Bool.or_eq_true_iff.mpr
  rcases h with ⟨hlo, hhi⟩ | ⟨hlo, hhi⟩
  · exact .inl (decide_eq_true ⟨hlo, hhi⟩)
  · exact .inr (Bool.and_eq_true_iff.mpr ⟨decide_eq_true hlo, decide_eq_true hhi⟩)

theorem IsDigit.isDigit {c : Char} (h : IsDigit c) : c.isDigit = true :=
  Bool.and_eq_true_iff.mpr ⟨decide_eq_true h.1, decide_eq_true h.2⟩

theorem IsIdentifier.isName {x : List Char} (h : IsIdentifier x) : isName x = true := by
  cases h with
  | cons hstart hrest =>
    rw [Rule.isName, Bool.and_eq_true, List.all_eq_true]
    constructor
    · rcases hstart with hletter | rfl | rfl
      · simp [isNameStart, hletter.isAlpha]
      · rfl
      · rfl
    · intro d hd
      rcases hrest d hd with hletter | hdigit | rfl | rfl
      · simp [isNamePart, Char.isAlphanum, hletter.isAlpha]
      · simp [isNamePart, Char.isAlphanum, hdigit.isDigit]
      · rfl
      · rfl

theorem allSpace_map_blankBracket {s : List Char} (h : ∀ c ∈ s, isSpace c = true ∨ c = '[' ∨ c = ']') :
    AllSpace (s.map blankBracket) := by
  intro b hb
  obtain ⟨c, hc, rfl⟩ := List.mem_map.mp hb
  rw [blankBracket]
  split
  · rfl
  next hbracket =>
    rw [Bool.or_eq_true, decide_eq_true_eq, decide_eq_true_eq] at hbracket
    exact (h c hc).resolve_right hbracket

/-! ## Declarators -/

/-- A pair of brackets, with white space in it and after it. -/
structure Brackets where
  inner : List Char
  trailing : List Char
  allSpace_inner : AllSpace inner
  allSpace_trailing : AllSpace trailing

def Brackets.text (b : Brackets) : List Char := '[' :: (b.inner ++ ']' :: b.trailing)

/-- A declarator as it is written. -/
structure Declarator where
  leading : List Char
  name : List Char
  trailing : List Char
  dimensions : List Brackets
  initialiser : Option (List Char)
  isIdentifier_name : IsIdentifier name
  allSpace_leading : AllSpace leading
  allSpace_trailing : AllSpace trailing
  /-- A comma would end the declarator. -/
  comma_notMem : ∀ t ∈ initialiser, ',' ∉ t

namespace Declarator

variable (d : Declarator)

/-- White space and brackets after the name. -/
def tail : List Char := d.trailing ++ d.dimensions.flatMap Brackets.text

/-- All before the initialiser. -/
def head : List Char := d.leading ++ (d.name ++ d.tail)

def text : List Char := d.head ++ d.initialiser.elim [] ('=' :: ·)

end Declarator

variable {d : Declarator} {c : Char}

theorem Brackets.mem_text {b : Brackets} (h : c ∈ b.text) : isSpace c = true ∨ c = '[' ∨ c = ']' := by
  rw [Brackets.text, List.mem_cons, List.mem_append, List.mem_cons] at h
  rcases h with rfl | h | rfl | h
  · exact .inr (.inl rfl)
  · exact .inl (b.allSpace_inner c h)
  · exact .inr (.inr rfl)
  · exact .inl (b.allSpace_trailing c h)

namespace Declarator

theorem mem_tail (h : c ∈ d.tail) : isSpace c = true ∨ c = '[' ∨ c = ']' := by
  rw [tail, List.mem_append, List.mem_flatMap] at h
  rcases h with h | ⟨b, -, h⟩
  · exact .inl (d.allSpace_trailing c h)
  · exact Brackets.mem_text h

/-- Neither an equals sign nor a comma stands before the initialiser. -/
theorem notMem_head (hspace : isSpace c = false) (hname : isNamePart c = false) (hopen : c ≠ '[')
    (hclose : c ≠ ']') : c ∉ d.head := by
  rw [head, List.mem_append, List.mem_append]
  rintro (h | h | h)
  · rw [d.allSpace_leading c h] at hspace
    cases hspace
  · exact notMem_of_isName d.isIdentifier_name.isName hname h
  · rcases mem_tail h with h | h | h
    · rw [h] at hspace
      cases hspace
    · exact hopen h
    · exact hclose h

theorem comma_notMem_text (d : Declarator) : ',' ∉ d.text := by
  have hhead : ',' ∉ d.head := notMem_head (by decide) (by decide) (by decide) (by decide)
  rw [text, List.mem_append, not_or]
  refine ⟨hhead, ?_⟩
  cases hinit : d.initialiser with
  | none => exact List.not_mem_nil
  | some t =>
    rw [Option.elim_some, List.mem_cons, not_or]
    exact ⟨by decide, d.comma_notMem t hinit⟩

/-- The first equals sign is that of the initialiser. -/
theorem before_text (d : Declarator) : before ['='] d.text = d.head := by
  have hhead : '=' ∉ d.head := notMem_head (by decide) (by decide) (by decide) (by decide)
  rw [text]
  cases d.initialiser with
  | none =>
    rw [Option.elim_none, List.append_nil]
    exact before_of_not_isInfix fun h => hhead (h.subset (List.mem_singleton_self '='))
  | some t => exact before_append_cons hhead t

/-- With blanks for brackets a single word is left. -/
theorem words_head (d : Declarator) : words (d.head.map blankBracket) = [d.name] := by
  have hname := d.isIdentifier_name.isName
  have hleading : AllSpace (d.leading.map blankBracket) :=
    allSpace_map_blankBracket fun c hc => .inl (d.allSpace_leading c hc)
  have htail : AllSpace (d.tail.map blankBracket) := allSpace_map_blankBracket fun c hc => mem_tail hc
  rw [head, List.map_append, List.map_append, hleading.words_append, words_append_allSpace htail,
    map_blankBracket_of_isName hname, words_of_noSpace (ne_nil_of_isName hname) (noSpace_of_isName hname)]

theorem declaredName?_text (d : Declarator) : declaredName? d.text = some d.name := by
  rw [declaredName?, before_text, words_head, List.getLast?_singleton, Option.filter_some,
    if_pos d.isIdentifier_name.isName]

end Declarator

/-- **Declared names.** Declarators that are joined with commas declare their names, in order, and nothing
else. -/
theorem declaredNames_joinWith (ds : List Declarator) :
    declaredNames (joinWith [','] (ds.map Declarator.text)) = ds.map Declarator.name := by
  cases ds with
  | nil => rfl
  | cons d ds =>
    have hcomma : ∀ p ∈ (d :: ds).map Declarator.text, ',' ∉ p := by
      intro p hp
      obtain ⟨e, -, rfl⟩ := List.mem_map.mp hp
      exact e.comma_notMem_text
    have hne : (d :: ds).map Declarator.text ≠ [] := List.cons_ne_nil _ _
    rw [declaredNames, splitOn_joinWith hne hcomma, List.filterMap_map, ← List.filterMap_eq_map]
    congr 1
    funext e
    exact e.declaredName?_text

/-- An initialiser may have all that stands before it, and equals signs of its own. -/
theorem declaredNames_joinWith_mixed : ∃ d e : Declarator, d.text = " b\t[ ] [] = x[0] == c".toList ∧
    e.text = "$a ".toList ∧ declaredNames (joinWith [','] [d.text, e.text]) = [['b'], ['$', 'a']] := by
  let d : Declarator :=
    { leading := [' ']
      name := ['b']
      trailing := ['\t']
      dimensions := [⟨[' '], [' '], List.all_eq_true.mp rfl, List.all_eq_true.mp rfl⟩,
        ⟨[], [' '], List.all_eq_true.mp rfl, List.all_eq_true.mp rfl⟩]
      initialiser := some " x[0] == c".toList
      isIdentifier_name := .cons (.inl (.inr ⟨by decide, by decide⟩)) nofun
      allSpace_leading := List.all_eq_true.mp rfl
      allSpace_trailing := List.all_eq_true.mp rfl
      comma_notMem := fun t ht => by cases ht; decide }
  let e : Declarator :=
    { leading := []
      name := ['$', 'a']
      trailing := [' ']
      dimensions := []
      initialiser := none
      isIdentifier_name := .cons (.inr (.inr rfl)) fun c hc => by
        rw [List.mem_singleton.mp hc]
        exact .inl (.inr ⟨by decide, by decide⟩)
      allSpace_leading := allSpace_nil
      allSpace_trailing := List.all_eq_true.mp rfl
      comma_notMem := nofun }
  exact ⟨d, e, by decide, by decide, declaredNames_joinWith [d, e]⟩

end JavaReview.Rule
