import JavaReview.Proofs.Rule.BlankLines
import JavaReview.Proofs.Rule.LineScan

/-!
The imports that are reported as unused, told line by line. What an import names is told by how its line is
put together (`Imports`), and the name that is looked for is the part of it after the last full stop
(`IsSimpleName`). It is looked for in the other lines joined into one text, where no name is found across
the end of a line (`contains_importBody_iff`).
-/

namespace JavaReview.Rule

open Text

/-! ## Names -/

/-- A text that is a name with white space around it, after `static` or not. Without a name after it,
`static` is the name. -/
inductive Names (s q : List Char) : Prop
  | plain {u v : List Char} : s = u ++ q ++ v → AllSpace u → AllSpace v → IsTrimmed q →
      ¬ "static ".toList <+: q → Names s q
  | ofStatic {u w v : List Char} : s = u ++ ("static ".toList ++ (w ++ q)) ++ v → AllSpace u →
      AllSpace w → AllSpace v → IsTrimmed q → q ≠ [] → Names s q

/-- A line that imports a qualified name. -/
def Imports (t q : List Char) : Prop := ∃ s, t = "import ".toList ++ (s ++ [';']) ∧ Names s q

/-- The part of a qualified name after its last full stop, or all of it. -/
def IsSimpleName (q n : List Char) : Prop := '.' ∉ n ∧ (n = q ∨ '.' :: n <:+ q)

theorem simpleName_eq_iff {q n : List Char} : simpleName q = n ↔ IsSimpleName q n := by
  rw [simpleName]
  by_cases hq : '.' ∈ q
  · obtain ⟨t, ht⟩ := exists_afterLast? hq
    obtain ⟨hsuffix, hstop⟩ := afterLast?_eq_some_iff.mp ht
    rw [ht, Option.getD_some]
    constructor
    · rintro rfl
      exact ⟨hstop, .inr hsuffix⟩
    · rintro ⟨hn, rfl | hn'⟩
      · exact absurd hq hn
      · have hlast := afterLast?_eq_some_iff.mpr ⟨hn', hn⟩
        rw [ht] at hlast
        exact Option.some.inj hlast
  · rw [afterLast?_of_notMem hq, Option.getD_none]
    constructor
    · rintro rfl
      exact ⟨hq, .inl rfl⟩
    · rintro ⟨-, rfl | hn⟩
      · rfl
      · exact absurd (hn.subset List.mem_cons_self) hq

theorem names_iff {s q : List Char} : Names s q ↔ trim (dropStart "static ".toList (trim s)) = q := by
  constructor
  · intro h
    cases h with
    | plain hs hu hv hq hstatic =>
      rw [hs, trim_append hu hv hq, dropStart_of_not_isPrefix hstatic, hq.trim_eq]
    | @ofStatic u w v hs hu hw hv hq hne =>
      have htrimmed : IsTrimmed ("static ".toList ++ (w ++ q)) := by
        refine ⟨?_, ?_⟩
        · intro c hc
          cases hc
          rfl
        · intro c hc
          apply hq.2
          rwa [List.getLast?_append_of_ne_nil _ (by simp [hne]), List.getLast?_append_of_ne_nil _ hne]
            at hc
      rw [hs, trim_append hu hv htrimmed, dropStart_append, ← List.append_nil (w ++ q),
        trim_append hw allSpace_nil hq]
  · rintro rfl
    obtain ⟨u, v, hu, hv, hs⟩ := exists_eq_append_trim s
    have htrimmed := isTrimmed_trim s
    by_cases hstatic : "static ".toList <+: trim s
    · obtain ⟨r, hr⟩ := hstatic
      rw [← hr] at hs htrimmed ⊢
      rw [dropStart_append]
      obtain ⟨w, x, hw, hx, hname⟩ := exists_eq_append_trim r
      -- White space at the end would be that of a trimmed text.
      have hend : x = [] := by
        apply htrimmed.eq_nil_of_isSuffix _ hx
        rw [hname]
        exact (List.suffix_append _ x).trans (List.suffix_append _ _)
      rw [hend, List.append_nil] at hname
      refine .ofStatic ?_ hu hw hv (isTrimmed_trim r) ?_
      · rw [← hname]
        exact hs
      · intro hnil
        rw [hnil, List.append_nil] at hname
        have hspaces : ' ' :: r = [] := by
          apply htrimmed.eq_nil_of_isSuffix
          · exact ⟨"static".toList, rfl⟩
          · rw [hname]
            intro c hc
            rcases List.mem_cons.mp hc with rfl | hc
            · rfl
            · exact hw c hc
        cases hspaces
    · rw [dropStart_of_not_isPrefix hstatic, htrimmed.trim_eq]
      exact .plain hs hu hv htrimmed hstatic

theorem exists_eq_import_iff {t : List Char} : (∃ s, t = "import ".toList ++ (s ++ [';'])) ↔
    "import ".toList <+: t ∧ [';'] <:+ t := by
  constructor
  · rintro ⟨s, rfl⟩
    exact ⟨List.prefix_append _ _, (List.suffix_append s _).trans (List.suffix_append _ _)⟩
  · rintro ⟨⟨r, rfl⟩, hend⟩
    rcases List.eq_nil_or_concat' r with rfl | ⟨s, c, rfl⟩
    · -- The semicolon is not part of `import`.
      exact absurd hend (by decide)
    · obtain ⟨p, hp⟩ := hend
      rw [← List.append_assoc] at hp
      cases (List.append_inj' hp rfl).2
      exact ⟨s, rfl⟩

theorem imports_iff {s q : List Char} : Imports ("import ".toList ++ (s ++ [';'])) q ↔ Names s q := by
  constructor
  · rintro ⟨r, hr, hq⟩
    have heq := List.append_cancel_right (List.append_cancel_left hr)
    rwa [heq]
  · intro hq
    exact ⟨s, rfl, hq⟩

/-- A line that starts with `import` and ends in a semicolon imports one name. -/
theorem existsUnique_imports_iff {t : List Char} :
    (∃! q, Imports t q) ↔ "import ".toList <+: t ∧ [';'] <:+ t := by
  rw [← exists_eq_import_iff]
  constructor
  · rintro ⟨q, ⟨s, hs, -⟩, -⟩
    exact ⟨s, hs⟩
  · rintro ⟨s, rfl⟩
    simp only [imports_iff, names_iff]
    exact existsUnique_eq'

theorem importedName?_eq_some_iff {t q : List Char} :
    importedName? t = some q ↔ Imports t q ∧ '*' ∉ t := by
  rw [importedName?]
  split
  next himport =>
    rw [Bool.and_eq_true, Bool.and_eq_true, Bool.not_eq_true', isImport, List.isPrefixOf_iff_prefix,
      List.isSuffixOf_iff_suffix, ← exists_eq_import_iff] at himport
    obtain ⟨⟨s, rfl⟩, hstar⟩ := himport
    rw [dropStart_append, dropEnd_concat, imports_iff, names_iff, Option.some_inj]
    exact (and_iff_left (by simpa using hstar)).symm
  next hother =>
    rw [Bool.and_eq_true, Bool.and_eq_true, Bool.not_eq_true', isImport, List.isPrefixOf_iff_prefix,
      List.isSuffixOf_iff_suffix, ← exists_eq_import_iff] at hother
    constructor
    · intro h
      cases h
    · rintro ⟨⟨s, hs, -⟩, hstar⟩
      exact absurd ⟨⟨s, hs⟩, by simpa using hstar⟩ hother

/-! ## Lines -/

/-- An import of a single name that no line but imports has in it. -/
structure IsUnusedImport (ls : List Line) (i : Nat) (q : List Char) : Prop where
  imports : Imports (trimmedAt ls i) q
  single : '*' ∉ trimmedAt ls i
  unused : ∃ n, IsSimpleName q n ∧ n ≠ [] ∧
    ∀ l ∈ ls, ¬ "import ".toList <+: trim l → ¬ n <:+: trim l

theorem contains_importBody_iff {n : List Char} (hne : n ≠ []) (hfeed : '\n' ∉ n) (ls : List Line) :
    contains n (importBody ls) = true ↔ ∃ l ∈ ls, ¬ "import ".toList <+: trim l ∧ n <:+: trim l := by
  rw [contains_iff_isInfix, importBody, isInfix_flatMap_concat_iff hne hfeed]
  simp [isImport, and_assoc, ← Bool.not_eq_true]

theorem mem_unusedImports_iff {ls : List Line} {q : List Char} {i : Nat} : (q, i) ∈ unusedImports ls ↔
    ∃ l, ls[i]? = some l ∧ importedName? (trim l) = some q ∧
      isImportUsed (importBody ls) q = false := by
  rw [unusedImports, List.mem_filterMap]
  constructor
  · rintro ⟨⟨l, k⟩, hl, h⟩
    rw [List.mem_zipIdx_iff_getElem?] at hl
    dsimp only at h
    split at h
    next => cases h
    next q' hq =>
      split at h
      next => cases h
      next hused =>
        cases h
        exact ⟨l, hl, hq, Bool.eq_false_iff.mpr hused⟩
  · rintro ⟨l, hl, hq, hused⟩
    refine ⟨(l, i), List.mem_zipIdx_iff_getElem?.mpr hl, ?_⟩
    simp [hq, hused]

/-- A name that is imported on a line is on that line, and no line has a line feed. -/
theorem feed_notMem_simpleName {l : Line} {q : List Char} (hl : '\n' ∉ l)
    (hq : importedName? (trim l) = some q) : '\n' ∉ simpleName q := by
  intro hmem
  have hsub := ((simpleName_sublist q).trans (importedName?_sublist hq)).trans (trim_isInfix l).sublist
  exact hl (hsub.subset hmem)

theorem isImportUsed_eq_false_iff {ls : List Line} {q : List Char} (hfeed : '\n' ∉ simpleName q) :
    isImportUsed (importBody ls) q = false ↔
      ∃ n, IsSimpleName q n ∧ n ≠ [] ∧ ∀ l ∈ ls, ¬ "import ".toList <+: trim l → ¬ n <:+: trim l := by
  rw [isImportUsed, Bool.or_eq_false_iff, List.isEmpty_eq_false_iff]
  constructor
  · rintro ⟨hne, hbody⟩
    refine ⟨simpleName q, simpleName_eq_iff.mp rfl, hne, ?_⟩
    intro l hl himport hinfix
    have hfound := (contains_importBody_iff hne hfeed ls).mpr ⟨l, hl, himport, hinfix⟩
    rw [hbody] at hfound
    cases hfound
  · rintro ⟨n, hn, hne, hbody⟩
    rw [simpleName_eq_iff.mpr hn] at hfeed ⊢
    refine ⟨hne, Bool.eq_false_iff.mpr fun hfound => ?_⟩
    obtain ⟨l, hl, himport, hinfix⟩ := (contains_importBody_iff hne hfeed ls).mp hfound
    exact hbody l hl himport hinfix

theorem Imports.lt_length {ls : List Line} {i : Nat} {q : List Char} (h : Imports (trimmedAt ls i) q) :
    i < ls.length := by
  refine Nat.lt_of_not_le fun hle => ?_
  rw [trimmedAt_of_length_le hle] at h
  obtain ⟨s, hs, -⟩ := h
  cases hs

theorem mem_unusedImports_iff_isUnusedImport {ls : List Line} (hls : ∀ l ∈ ls, '\n' ∉ l)
    {q : List Char} {i : Nat} : (q, i) ∈ unusedImports ls ↔ IsUnusedImport ls i q := by
  rw [mem_unusedImports_iff]
  constructor
  · rintro ⟨l, hl, hq, hused⟩
    obtain ⟨hi, rfl⟩ := List.getElem?_eq_some_iff.mp hl
    have hfeed := feed_notMem_simpleName (hls _ (List.getElem_mem hi)) hq
    rw [importedName?_eq_some_iff, ← trimmedAt_of_lt hi] at hq
    exact ⟨hq.1, hq.2, (isImportUsed_eq_false_iff hfeed).mp hused⟩
  · rintro ⟨himports, hsingle, hunused⟩
    have hi := himports.lt_length
    have hq := importedName?_eq_some_iff.mpr ⟨himports, hsingle⟩
    rw [trimmedAt_of_lt hi] at hq
    have hfeed := feed_notMem_simpleName (hls _ (List.getElem_mem hi)) hq
    exact ⟨ls[i], List.getElem?_eq_getElem hi, hq, (isImportUsed_eq_false_iff hfeed).mpr hunused⟩

/-- **Unused imports.** What is reported are the imports of a single name that no other line has in it,
each where it stands. Every line that starts with `import` and ends in a semicolon imports one name. -/
theorem unusedImport_reportsExactly (source filename : String) :
    (unusedImport.ReportsExactly (.ofSource source filename) fun i issue =>
      ∃ q, IsUnusedImport (Source.lines source.toList) i q ∧ issue = unusedImportIssue q) ∧
    ∀ t, (∃! q, Imports t q) ↔ "import ".toList <+: t ∧ [';'] <:+ t := by
  refine ⟨?_, fun t => existsUnique_imports_iff⟩
  have hls : ∀ l ∈ Source.lines source.toList, '\n' ∉ l := fun l => Source.feed_notMem_of_mem_lines
  apply reportsExactly_map (unusedImports_sublist (Context.ofSource source filename).lines)
  intro i issue
  constructor
  · rintro ⟨q, hq, rfl⟩
    exact ⟨(q, i), (mem_unusedImports_iff_isUnusedImport hls).mpr hq, rfl, rfl⟩
  · rintro ⟨⟨q, k⟩, hmem, hk, rfl⟩
    cases Nat.succ.inj hk
    exact ⟨q, (mem_unusedImports_iff_isUnusedImport hls).mp hmem, rfl⟩

end JavaReview.Rule
