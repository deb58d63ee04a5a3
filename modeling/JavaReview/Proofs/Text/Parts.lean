import JavaReview.Text.Search
import JavaReview.Text.Space

/-!
Parts of texts. What searching finds and what trimming and cutting leave is told by how a text is put
together: a text that was found is an infix (`contains_iff_isInfix`), and a trimmed text is what stands
between white space and has none at its ends (`trim_eq_iff`).
-/

namespace JavaReview.Text

/-! ## Searching -/

theorem contains_iff_isInfix {needle s : List Char} : contains needle s = true ↔ needle <:+: s := by
  induction s with
  | nil => rw [contains, List.isEmpty_iff, List.infix_nil]
  | cons c r ih =>
    rw [contains, Bool.or_eq_true, ih, List.isPrefixOf_iff_prefix, List.infix_cons_iff]

theorem isPrefix_of_isPrefix_append_cons {c : Char} {needle s r : List Char} (hc : c ∉ needle)
    (h : needle <+: s ++ c :: r) : needle <+: s := by
  have hs : s ++ [c] <+: s ++ c :: r := ⟨r, by simp⟩
  rcases List.prefix_or_prefix_of_prefix h hs with h | h
  · rcases List.prefix_concat_iff.mp h with rfl | h
    · exact absurd (by simp) hc
    · exact h
  · exact absurd (h.subset (by simp)) hc

/-- A text that lacks a character is not found across it. -/
theorem isInfix_append_cons_iff {c : Char} {needle : List Char} (hc : c ∉ needle) (s r : List Char) :
    needle <:+: s ++ c :: r ↔ needle <:+: s ∨ needle <:+: r := by
  constructor
  · intro h
    induction s with
    | nil =>
      rcases List.infix_cons_iff.mp h with h | h
      · exact .inl (isPrefix_of_isPrefix_append_cons (s := []) hc h).isInfix
      · exact .inr h
    | cons a s ih =>
      rcases List.infix_cons_iff.mp h with h | h
      · exact .inl (isPrefix_of_isPrefix_append_cons (s := a :: s) hc h).isInfix
      · exact (ih h).imp_left fun hs => List.infix_cons_iff.mpr (.inr hs)
  · rintro (h | h)
    · exact h.trans (List.prefix_append s _).isInfix
    · exact h.trans ((List.suffix_cons c r).trans (List.suffix_append s _)).isInfix

/-- A text that lacks the line end is found in lines that are put together if it is found in one. -/
theorem isInfix_flatMap_concat_iff {c : Char} {needle : List Char} (hne : needle ≠ []) (hc : c ∉ needle)
    (ts : List (List Char)) : needle <:+: ts.flatMap (· ++ [c]) ↔ ∃ t ∈ ts, needle <:+: t := by
  induction ts with
  | nil => simp [hne]
  | cons t ts ih =>
    rw [List.flatMap_cons, List.append_assoc, List.singleton_append, isInfix_append_cons_iff hc, ih]
    simp

/-! ## Cutting -/

theorem eat?_eq_some_iff {p s r : List Char} : eat? p s = some r ↔ s = p ++ r := by
  constructor
  · exact eq_append_of_eat?
  · rintro rfl
    exact eat?_append p r

theorem before_of_not_isInfix {needle s : List Char} (h : ¬ needle <:+: s) : before needle s = s := by
  induction s with
  | nil => rfl
  | cons c r ih =>
    rw [List.infix_cons_iff, not_or, ← List.isPrefixOf_iff_prefix] at h
    rw [before, if_neg h.1, ih h.2]

/-- A character is found where it stands first. -/
theorem before_append_cons {x : Char} {p : List Char} (hx : x ∉ p) (r : List Char) :
    before [x] (p ++ x :: r) = p := by
  induction p with
  | nil => simp [before]
  | cons c p ih =>
    rw [List.mem_cons, not_or] at hx
    rw [List.cons_append, before, if_neg (by simpa using hx.1), ih hx.2]

theorem before_isPrefix (needle s : List Char) : before needle s <+: s := by
  induction s with
  | nil => exact List.prefix_rfl
  | cons c r ih =>
    rw [before]
    split
    · exact List.nil_prefix
    · exact (List.prefix_cons_inj c).mpr ih

theorem after?_isSuffix {x : Char} {s t : List Char} (h : after? x s = some t) : t <:+ s := by
  induction s with
  | nil => cases h
  | cons c r ih =>
    rw [after?] at h
    split at h
    · cases h
      exact List.suffix_cons c t
    · exact (ih h).trans (List.suffix_cons c r)

@[simp] theorem dropStart_append (p s : List Char) : dropStart p (p ++ s) = s := by
  rw [dropStart, eat?_append]
  rfl

theorem dropStart_of_not_isPrefix {p s : List Char} (h : ¬ p <+: s) : dropStart p s = s := by
  rw [dropStart]
  cases heat : eat? p s with
  | none => rfl
  | some r => exact absurd ⟨r, (eq_append_of_eat? heat).symm⟩ h

theorem dropStart_isSuffix (p s : List Char) : dropStart p s <:+ s := by
  rw [dropStart]
  cases h : eat? p s with
  | none => exact List.suffix_rfl
  | some r =>
    rw [eq_append_of_eat? h]
    exact List.suffix_append p r

theorem dropEnd_isPrefix (p s : List Char) : dropEnd p s <+: s := by
  rw [dropEnd]
  split
  · exact List.take_prefix _ s
  · exact List.prefix_rfl

theorem afterLast?_of_notMem {x : Char} {s : List Char} (h : x ∉ s) : afterLast? x s = none := by
  induction s with
  | nil => rfl
  | cons c r ih =>
    rw [List.mem_cons, not_or] at h
    rw [afterLast?, ih h.2]
    exact if_neg (Ne.symm h.1)

theorem exists_afterLast? {x : Char} {s : List Char} (h : x ∈ s) : ∃ t, afterLast? x s = some t := by
  induction s with
  | nil => cases h
  | cons c r ih =>
    rw [afterLast?]
    cases hr : afterLast? x r with
    | some t => exact ⟨t, rfl⟩
    | none =>
      rcases List.mem_cons.mp h with rfl | h
      · exact ⟨r, if_pos rfl⟩
      · obtain ⟨t, ht⟩ := ih h
        rw [hr] at ht
        cases ht

theorem afterLast?_eq_some_iff {x : Char} {s t : List Char} :
    afterLast? x s = some t ↔ x :: t <:+ s ∧ x ∉ t := by
  induction s generalizing t with
  | nil => simp [afterLast?]
  | cons c r ih =>
    rw [afterLast?, List.suffix_cons_iff]
    by_cases hx : x ∈ r
    · obtain ⟨u, hu⟩ := exists_afterLast? hx
      simp only [hu]
      rw [← hu, ih]
      constructor
      · rintro ⟨hsuffix, ht⟩
        exact ⟨.inr hsuffix, ht⟩
      · rintro ⟨heq | hsuffix, ht⟩
        · cases heq
          exact absurd hx ht
        · exact ⟨hsuffix, ht⟩
    · rw [afterLast?_of_notMem hx]
      have hsuffix : ¬ x :: t <:+ r := fun h => hx (h.subset List.mem_cons_self)
      rw [or_iff_left hsuffix]
      simp only [Option.ite_none_right_eq_some, Option.some.injEq, List.cons.injEq]
      constructor
      · rintro ⟨rfl, rfl⟩
        exact ⟨⟨rfl, rfl⟩, hx⟩
      · rintro ⟨⟨rfl, rfl⟩, -⟩
        exact ⟨rfl, rfl⟩

/-! ## White space -/

theorem isSpace_of_isBlank {c : Char} (h : isBlank c = true) : isSpace c = true := by
  simp only [isBlank, Bool.or_eq_true, beq_iff_eq] at h
  rcases h with (((rfl | rfl) | rfl) | rfl) | h
  · rfl
  · rfl
  · rfl
  · rfl
  · simp [isSpace, h]

theorem wordsFrom_of_noSpace {cur s : List Char} (h : ∀ c ∈ s, isSpace c = false) :
    wordsFrom cur s = if (cur.reverse ++ s).isEmpty then [] else [cur.reverse ++ s] := by
  induction s generalizing cur with
  | nil => simp [wordsFrom]
  | cons c r ih =>
    rw [wordsFrom, if_neg (Bool.eq_false_iff.mp (h c List.mem_cons_self)),
      ih fun d hd => h d (List.mem_cons_of_mem c hd)]
    simp

theorem words_of_noSpace {s : List Char} (hne : s ≠ []) (h : ∀ c ∈ s, isSpace c = false) :
    words s = [s] := by
  rw [words, wordsFrom_of_noSpace h, if_neg (by simpa using hne)]
  rfl

/-! ## Trimming -/

theorem trim_isInfix (s : List Char) : trim s <:+: s := by
  have hright : trim s <+: trimLeft s := by
    rw [trim, trimRight, ← List.reverse_suffix, List.reverse_reverse]
    exact List.dropWhile_suffix isSpace
  exact hright.isInfix.trans (List.dropWhile_suffix isSpace).isInfix

def AllSpace (s : List Char) : Prop := ∀ c ∈ s, isSpace c = true

theorem allSpace_nil : AllSpace [] := nofun

/-- A text with no white space at its ends. -/
def IsTrimmed (s : List Char) : Prop :=
  (∀ c ∈ s.head?, isSpace c = false) ∧ ∀ c ∈ s.getLast?, isSpace c = false

theorem dropWhile_isSpace_eq_self {s : List Char} (h : ∀ c ∈ s.head?, isSpace c = false) :
    s.dropWhile isSpace = s := by
  cases s with
  | nil => rfl
  | cons c r => rw [List.dropWhile_cons_of_neg (Bool.eq_false_iff.mp (h c rfl))]

theorem isSpace_of_head?_dropWhile (s : List Char) :
    ∀ c ∈ (s.dropWhile isSpace).head?, isSpace c = false := by
  intro c hc
  have hhead := List.head?_dropWhile_not isSpace s
  rw [Option.mem_def] at hc
  simpa [hc] using hhead

theorem dropWhile_isSpace_append {u : List Char} (h : AllSpace u) (s : List Char) :
    (u ++ s).dropWhile isSpace = s.dropWhile isSpace := List.dropWhile_append_of_pos h

theorem trimRight_append {t v : List Char} (hv : AllSpace v)
    (ht : ∀ c ∈ t.getLast?, isSpace c = false) : trimRight (t ++ v) = t := by
  have hspaces : AllSpace v.reverse := fun c hc => hv c (List.mem_reverse.mp hc)
  have hlast : ∀ c ∈ t.reverse.head?, isSpace c = false := by
    rwa [List.head?_reverse]
  rw [trimRight, List.reverse_append, dropWhile_isSpace_append hspaces,
    dropWhile_isSpace_eq_self hlast, List.reverse_reverse]

theorem trim_append {u t v : List Char} (hu : AllSpace u) (hv : AllSpace v) (ht : IsTrimmed t) :
    trim (u ++ t ++ v) = t := by
  rw [trim, trimLeft, List.append_assoc, dropWhile_isSpace_append hu]
  cases t with
  | nil =>
    rw [List.nil_append, ← List.append_nil v, dropWhile_isSpace_append hv]
    rfl
  | cons c t =>
    rw [dropWhile_isSpace_eq_self (s := c :: t ++ v) ht.1, trimRight_append hv ht.2]

theorem exists_eq_append_dropWhile (s : List Char) :
    ∃ u, AllSpace u ∧ s = u ++ s.dropWhile isSpace :=
  ⟨s.takeWhile isSpace, List.all_eq_true.mp List.all_takeWhile,
    List.takeWhile_append_dropWhile.symm⟩

theorem exists_trimLeft_eq (s : List Char) : ∃ v, AllSpace v ∧ trimLeft s = trim s ++ v := by
  obtain ⟨w, hw, hright⟩ := exists_eq_append_dropWhile (trimLeft s).reverse
  refine ⟨w.reverse, fun c hc => hw c (List.mem_reverse.mp hc), ?_⟩
  rw [← List.reverse_reverse (trimLeft s), hright, List.reverse_append]
  rfl

theorem exists_eq_append_trim (s : List Char) :
    ∃ u v, AllSpace u ∧ AllSpace v ∧ s = u ++ trim s ++ v := by
  obtain ⟨u, hu, hleft⟩ := exists_eq_append_dropWhile s
  obtain ⟨v, hv, hright⟩ := exists_trimLeft_eq s
  refine ⟨u, v, hu, hv, ?_⟩
  rw [List.append_assoc, ← hright]
  exact hleft

theorem isTrimmed_trim (s : List Char) : IsTrimmed (trim s) := by
  constructor
  · intro c hc
    -- The first character is that of what trimming on the left leaves.
    obtain ⟨v, -, hright⟩ := exists_trimLeft_eq s
    apply isSpace_of_head?_dropWhile s
    rw [← trimLeft, hright, List.head?_append, Option.mem_def.mp hc]
    rfl
  · intro c hc
    apply isSpace_of_head?_dropWhile (trimLeft s).reverse
    rwa [trim, trimRight, List.getLast?_reverse] at hc

/-- Trimming leaves what stands between white space and has none at its ends. -/
theorem trim_eq_iff {s t : List Char} : trim s = t ↔
    IsTrimmed t ∧ ∃ u v, AllSpace u ∧ AllSpace v ∧ s = u ++ t ++ v := by
  constructor
  · rintro rfl
    exact ⟨isTrimmed_trim s, exists_eq_append_trim s⟩
  · rintro ⟨ht, u, v, hu, hv, rfl⟩
    exact trim_append hu hv ht

theorem IsTrimmed.trim_eq {t : List Char} (h : IsTrimmed t) : trim t = t :=
  trim_eq_iff.mpr ⟨h, [], [], allSpace_nil, allSpace_nil, by simp⟩

theorem IsTrimmed.eq_nil_of_isSuffix {s t : List Char} (ht : IsTrimmed t) (hsuffix : s <:+ t)
    (hs : AllSpace s) : s = [] := by
  obtain ⟨p, rfl⟩ := hsuffix
  cases hlast : s.getLast? with
  | none => exact List.getLast?_eq_none_iff.mp hlast
  | some c =>
    have hspace := ht.2 c (by rw [List.getLast?_append, hlast]; rfl)
    rw [hs c (List.mem_of_getLast? hlast)] at hspace
    cases hspace

/-- Trimming takes away white space only. -/
theorem count_trim {c : Char} (hc : isSpace c = false) (s : List Char) :
    (trim s).count c = s.count c := by
  obtain ⟨u, v, hu, hv, hs⟩ := exists_eq_append_trim s
  have hnone {w : List Char} (hw : AllSpace w) : w.count c = 0 := by
    rw [List.count_eq_zero]
    intro hmem
    rw [hw c hmem] at hc
    cases hc
  have hcount := congrArg (List.count c) hs
  rw [List.count_append, List.count_append, hnone hu, hnone hv] at hcount
  omega

/-! ## Words -/

theorem wordsFrom_append_space {c : Char} (hc : isSpace c = true) (cur s r : List Char) :
    wordsFrom cur (s ++ c :: r) = wordsFrom cur s ++ words r := by
  induction s generalizing cur with
  | nil => exact if_pos hc
  | cons a s ih =>
    rw [List.cons_append, wordsFrom, wordsFrom, ih, ih]
    split
    · rw [List.append_assoc]
    · rfl

/-- White space parts the words before it from those after it. -/
theorem words_append_space {c : Char} (hc : isSpace c = true) (s r : List Char) :
    words (s ++ c :: r) = words s ++ words r := wordsFrom_append_space hc [] s r

theorem AllSpace.words_append {u : List Char} (hu : AllSpace u) (s : List Char) :
    words (u ++ s) = words s := by
  induction u with
  | nil => rfl
  | cons c u ih =>
    have hsplit := words_append_space (hu c List.mem_cons_self) [] (u ++ s)
    exact hsplit.trans (ih fun d hd => hu d (List.mem_cons_of_mem c hd))

theorem words_append_allSpace {v : List Char} (hv : AllSpace v) (s : List Char) :
    words (s ++ v) = words s := by
  cases v with
  | nil => rw [List.append_nil]
  | cons c v =>
    have hrest : AllSpace v := fun d hd => hv d (List.mem_cons_of_mem c hd)
    have hnone : words v = [] := by
      rw [← List.append_nil v, hrest.words_append]
      rfl
    rw [words_append_space (hv c List.mem_cons_self), hnone, List.append_nil]

end JavaReview.Text
