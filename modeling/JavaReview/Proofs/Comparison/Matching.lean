import JavaReview.Proofs.Comparison.Occurrences
import Mathlib.Data.List.Perm.Basic

/-!
What the comparison of two reviews holds. The findings of a key are paired in order, the first of one
review with the first of the other and so on (`Comparison.mem_pairs_iff`); what is left over on either
side is new or removed, and the pairs that differ are changed (`Comparison.ofReviews_exact`). Pairs have
one key, which is less than one rule, title and line: `Comparison.matchesByTriple_iff` says for which
reviews it comes to the same.
-/

namespace JavaReview.Comparison

/-! ## The order of reports -/

theorem inOrder_iff {a b : Finding} :
    inOrder a b = true ↔ a.line < b.line ∨ a.line = b.line ∧
      (a.rule < b.rule ∨ a.rule = b.rule ∧ tieText a ≤ tieText b) := by
  unfold inOrder
  by_cases hline : a.line = b.line
  · by_cases hrule : a.rule = b.rule
    · simp [hline, hrule]
    · simp [hline, hrule]
  · simp [hline]

theorem inOrder_trans {a b c : Finding} (hab : inOrder a b = true) (hbc : inOrder b c = true) :
    inOrder a c = true := by
  rw [inOrder_iff] at *
  rcases hab with hab | ⟨hline, hab | ⟨hrule, hab⟩⟩
  · rcases hbc with hbc | ⟨hline', -⟩
    · exact .inl (by omega)
    · exact .inl (by omega)
  · rcases hbc with hbc | ⟨hline', hbc | ⟨hrule', -⟩⟩
    · exact .inl (by omega)
    · exact .inr ⟨by omega, .inl (Std.lt_trans hab hbc)⟩
    · exact .inr ⟨by omega, .inl (hrule' ▸ hab)⟩
  · rw [hline, hrule]
    rcases hbc with hbc | ⟨hline', hbc | ⟨hrule', hbc⟩⟩
    · exact .inl hbc
    · exact .inr ⟨hline', .inl hbc⟩
    · exact .inr ⟨hline', .inr ⟨hrule', Std.le_trans hab hbc⟩⟩

theorem inOrder_total (a b : Finding) : (inOrder a b || inOrder b a) = true := by
  rw [Bool.or_eq_true, inOrder_iff, inOrder_iff]
  rcases Int.lt_trichotomy a.line b.line with hline | hline | hline
  · exact .inl (.inl hline)
  · rcases Std.lt_trichotomy a.rule b.rule with hrule | hrule | hrule
    · exact .inl (.inr ⟨hline, .inl hrule⟩)
    · rcases Std.le_total (a := tieText a) (b := tieText b) with h | h
      · exact .inl (.inr ⟨hline, .inr ⟨hrule, h⟩⟩)
      · exact .inr (.inr ⟨hline.symm, .inr ⟨hrule.symm, h⟩⟩)
    · exact .inr (.inr ⟨hline.symm, .inl hrule⟩)
  · exact .inr (.inl hline)

theorem unmatched_sorted (fs others : List (String × Finding)) :
    (unmatched fs others).Pairwise fun a b => a.line < b.line ∨ a.line = b.line ∧ a.rule ≤ b.rule := by
  have hsorted : (unmatched fs others).Pairwise fun a b => inOrder a b = true := by
    refine List.pairwise_mergeSort (fun _ _ _ hab hbc => ?_) inOrder_total _
    exact inOrder_trans hab hbc
  refine hsorted.imp fun hab => ?_
  rcases inOrder_iff.mp hab with h | ⟨hline, h | ⟨hrule, -⟩⟩
  · exact .inl h
  · exact .inr ⟨hline, Std.le_of_lt h⟩
  · exact .inr ⟨hline, hrule ▸ Std.le_refl _⟩

/-! ## Findings without a partner -/

/-- The findings whose number within their key exceeds the number of findings of that key among the
others. -/
def surplus (fs others : List Finding) : List Finding :=
  ((occurrences fs).filter fun o => countKey o.key others < o.number).map (·.finding)

theorem isNone_lookup_index (fs : List Finding) {gs : List Finding} {o : Occurrence}
    (ho : o ∈ occurrences gs) :
    ((index fs).lookup o.label).isNone = decide (countKey o.key fs < o.number) := by
  have hpos := number_pos ho
  rw [lookup_index ho, Bool.eq_iff_iff, Option.isNone_iff_eq_none, nth?_eq_none_iff,
    decide_eq_true_iff]
  omega

theorem unmatched_index_perm (fs gs : List Finding) :
    (unmatched (index fs) (index gs)).Perm (surplus fs gs) := by
  refine (List.mergeSort_perm _ _).trans (List.Perm.of_eq ?_)
  rw [index_eq fs, List.filter_map, List.map_map, surplus]
  congr 1
  exact List.filter_congr fun o ho => isNone_lookup_index gs ho

/-! ## Pairs -/

/-- Two findings of one key that equally many of the key precede in their reviews. -/
structure Pair where
  key : String
  index : Nat
  base : Finding
  head : Finding

/-- The pairs of the findings of two reviews. -/
def pairs (base head : List Finding) : List Pair :=
  (occurrences head).filterMap fun o =>
    (nth? base o.key (o.number - 1)).map fun b => ⟨o.key, o.number - 1, b, o.finding⟩

theorem mem_pairs_iff {base head : List Finding} {p : Pair} :
    p ∈ pairs base head ↔
      nth? base p.key p.index = some p.base ∧ nth? head p.key p.index = some p.head := by
  simp only [pairs, List.mem_filterMap, Option.map_eq_some_iff]
  constructor
  · rintro ⟨o, ho, b, hb, rfl⟩
    exact ⟨hb, nth?_of_mem_occurrences ho⟩
  · rintro ⟨hb, hh⟩
    refine ⟨_, mem_occurrences_of_nth? hh, p.base, ?_, ?_⟩
    · rw [Occurrence.key, key_of_nth? hh]
      exact hb
    · rw [Occurrence.key, key_of_nth? hh]
      rfl

theorem map_finding_occurrences (fs : List Finding) : (occurrences fs).map (·.finding) = fs := by
  rw [occurrences, List.map_map]
  exact List.zipIdx_map_fst 0 fs

/-- The findings that have a partner. -/
def partnered (fs others : List Finding) : List Occurrence :=
  (occurrences fs).filter fun o => !decide (countKey o.key others < o.number)

theorem perm_surplus_append_partnered (fs others : List Finding) :
    fs.Perm (surplus fs others ++ (partnered fs others).map (·.finding)) := by
  have hperm := List.filter_append_perm
    (fun o : Occurrence => decide (countKey o.key others < o.number)) (occurrences fs)
  have hmap := hperm.symm.map (·.finding)
  rwa [map_finding_occurrences, List.map_append] at hmap

theorem nodup_labels_partnered (fs others : List Finding) :
    ((partnered fs others).map Occurrence.label).Nodup :=
  (nodup_labels fs).sublist (List.filter_sublist.map _)

/-- What does not depend on the finding of the base is the same of the pairs and of the findings of the
head that have a partner. -/
theorem map_pairs {β : Type} {base head : List Finding} {f : Pair → β} {g : Occurrence → β}
    (hfg : ∀ o b, 1 ≤ o.number → f ⟨o.key, o.number - 1, b, o.finding⟩ = g o) :
    (pairs base head).map f = (partnered head base).map g := by
  rw [pairs, partnered, List.map_filterMap, ← List.filterMap_eq_map, List.filterMap_filter]
  refine List.filterMap_congr fun o ho => ?_
  have hpos := number_pos ho
  cases hb : nth? base o.key (o.number - 1) with
  | none =>
    have hle := nth?_eq_none_iff.mp hb
    have hlt : countKey o.key base < o.number := by omega
    simp [hlt]
  | some b =>
    have hlt : ¬ countKey o.key base < o.number := fun h => by
      rw [nth?_eq_none_iff.mpr (by omega)] at hb
      cases hb
    simp [hlt, hfg o b hpos]

theorem map_head_pairs (base head : List Finding) :
    (pairs base head).map (·.head) = (partnered head base).map (·.finding) :=
  map_pairs fun _ _ _ => rfl

theorem label_mem_iff {fs gs : List Finding} {o : Occurrence} (ho : o ∈ occurrences fs) :
    o.label ∈ (occurrences gs).map Occurrence.label ↔ o.number ≤ countKey o.key gs := by
  have hpos := number_pos ho
  rw [List.mem_map]
  constructor
  · rintro ⟨p, hp, hlabel⟩
    obtain ⟨hkey, hnumber⟩ := label_inj hp ho hlabel
    rw [← hkey, ← hnumber]
    exact number_le_of_mem_occurrences hp
  · intro hle
    cases hg : nth? gs o.key (o.number - 1) with
    | none =>
      have := nth?_eq_none_iff.mp hg
      omega
    | some g =>
      refine ⟨_, mem_occurrences_of_nth? hg, ?_⟩
      rw [Occurrence.label, Occurrence.key, key_of_nth? hg, Nat.sub_add_cancel hpos]
      rfl

theorem mem_labels_partnered {fs gs : List Finding} {l : String} :
    l ∈ (partnered fs gs).map Occurrence.label ↔
      l ∈ (occurrences fs).map Occurrence.label ∧ l ∈ (occurrences gs).map Occurrence.label := by
  constructor
  · intro h
    obtain ⟨o, ho, rfl⟩ := List.mem_map.mp h
    obtain ⟨ho, hlt⟩ := List.mem_filter.mp ho
    refine ⟨List.mem_map.mpr ⟨o, ho, rfl⟩, (label_mem_iff ho).mpr ?_⟩
    simpa using hlt
  · rintro ⟨hl, hl'⟩
    obtain ⟨o, ho, rfl⟩ := List.mem_map.mp hl
    have hle := (label_mem_iff ho).mp hl'
    exact List.mem_map.mpr ⟨o, List.mem_filter.mpr ⟨ho, by simpa using hle⟩, rfl⟩

/-- Both reviews have partners for the same numbered keys. -/
theorem labels_partnered_perm (fs gs : List Finding) :
    ((partnered fs gs).map Occurrence.label).Perm ((partnered gs fs).map Occurrence.label) := by
  rw [List.perm_ext_iff_of_nodup (nodup_labels_partnered fs gs) (nodup_labels_partnered gs fs)]
  intro l
  rw [mem_labels_partnered, mem_labels_partnered, and_comm]

theorem map_base_pairs_perm (base head : List Finding) :
    ((pairs base head).map (·.base)).Perm ((partnered base head).map (·.finding)) := by
  have hpairs : (pairs base head).map (·.base) =
      ((partnered head base).map Occurrence.label).filterMap fun l => (index base).lookup l := by
    rw [pairs, partnered, List.map_filterMap, List.filterMap_map, List.filterMap_filter]
    refine List.filterMap_congr fun o ho => ?_
    have hnone := isNone_lookup_index base ho
    rw [Function.comp_apply, ← hnone, lookup_index ho]
    cases nth? base o.key (o.number - 1) <;> rfl
  have hself : (partnered base head).map (·.finding) =
      ((partnered base head).map Occurrence.label).filterMap fun l => (index base).lookup l := by
    rw [List.filterMap_map, ← List.filterMap_eq_map]
    refine List.filterMap_congr fun o ho => ?_
    have ho := List.mem_of_mem_filter ho
    show some o.finding = (index base).lookup o.label
    rw [lookup_index ho, nth?_of_mem_occurrences ho]
  rw [hpairs, hself]
  exact (labels_partnered_perm head base).filterMap _

/-! ## Changed pairs -/

/-- What pairs are compared in, by name. -/
def comparedFields : List (String × (Finding → String)) :=
  [("severity", fun f => f.severity.name), ("category", fun f => f.category.name),
    ("description", fun f => trimmed f.description)]

/-- The names of the fields in which two findings differ. -/
def differingFields (b h : Finding) : List String :=
  (comparedFields.filter fun field => field.2 b ≠ field.2 h).map (·.1)

theorem changedFields_eq (b h : Finding) : changedFields b h = differingFields b h := by
  have hseverity : b.severity = h.severity ↔ b.severity.name = h.severity.name := by
    cases b.severity; cases h.severity; simp
  have hcategory : b.category = h.category ↔ b.category.name = h.category.name := by
    cases b.category; cases h.category; simp
  unfold changedFields differingFields comparedFields
  simp only [hseverity, hcategory]
  by_cases h1 : b.severity.name = h.severity.name <;>
    by_cases h2 : b.category.name = h.category.name <;>
      by_cases h3 : trimmed b.description = trimmed h.description <;> simp [h1, h2, h3]

/-- The change that a pair is reported as. -/
def Pair.change (p : Pair) : Change where
  key := numberedKey p.key (p.index + 1)
  base := p.base
  head := p.head
  fields := differingFields p.base p.head

theorem key_change_pairs (base head : List Finding) :
    (pairs base head).map (·.change.key) = (partnered head base).map Occurrence.label :=
  map_pairs fun o b hpos => by
    show numberedKey o.key (o.number - 1 + 1) = _
    rw [Nat.sub_add_cancel hpos]
    rfl

theorem nodup_pairs (base head : List Finding) :
    ((pairs base head).map fun p => (p.key, p.index)).Nodup := by
  apply List.Nodup.of_map fun k => numberedKey k.1 (k.2 + 1)
  have hkeys := nodup_labels_partnered head base
  rw [← key_change_pairs] at hkeys
  rw [List.map_map]
  exact hkeys

theorem changed_perm (base head : Review) :
    (ofReviews base head).changed.Perm
      (((pairs base.findings head.findings).filter fun p =>
        differingFields p.base p.head ≠ []).map Pair.change) := by
  refine (List.mergeSort_perm _ _).trans (List.Perm.of_eq ?_)
  rw [index_eq head.findings, List.filterMap_map, pairs, List.filter_filterMap, List.map_filterMap]
  refine List.filterMap_congr fun o ho => ?_
  rw [Function.comp_apply, change?, lookup_index ho]
  cases hb : nth? base.findings o.key (o.number - 1) with
  | none => rfl
  | some b =>
    simp only [changedFields_eq]
    by_cases hsame : differingFields b o.finding = []
    · simp [Option.filter_some, hsame]
    · simp [Option.filter_some, hsame, Pair.change, Nat.sub_add_cancel (number_pos ho), Occurrence.label]

theorem changed_sorted (base head : Review) :
    (ofReviews base head).changed.Pairwise fun c d => c.key < d.key := by
  have hnodup : ((ofReviews base head).changed.map (·.key)).Nodup := by
    rw [((changed_perm base head).map _).nodup_iff, List.map_map]
    refine List.Nodup.sublist (List.filter_sublist.map _) ?_
    have hkeys := nodup_labels_partnered head.findings base.findings
    rw [← key_change_pairs] at hkeys
    exact hkeys
  have hsorted : (ofReviews base head).changed.Pairwise fun c d => c.key ≤ d.key := by
    have h : (ofReviews base head).changed.Pairwise fun c d => decide (c.key ≤ d.key) = true := by
      refine List.pairwise_mergeSort (fun a b c hab hbc => ?_) (fun a b => ?_) _
      · rw [decide_eq_true_iff] at *
        exact Std.le_trans hab hbc
      · rw [Bool.or_eq_true, decide_eq_true_iff, decide_eq_true_iff]
        exact Std.le_total
    exact h.imp of_decide_eq_true
  refine (hsorted.and (List.pairwise_map.mp hnodup)).imp fun hcd => ?_
  exact Std.lt_of_le_of_ne hcd.1 hcd.2

/-! ## The comparison -/

theorem head_perm (base head : Review) :
    head.findings.Perm ((ofReviews base head).new ++
      (pairs base.findings head.findings).map (·.head)) := by
  refine (perm_surplus_append_partnered head.findings base.findings).trans ?_
  rw [← map_head_pairs]
  exact (unmatched_index_perm _ _).symm.append_right _

theorem base_perm (base head : Review) :
    base.findings.Perm ((ofReviews base head).removed ++
      (pairs base.findings head.findings).map (·.base)) := by
  refine (perm_surplus_append_partnered base.findings head.findings).trans ?_
  exact (unmatched_index_perm _ _).symm.append (map_base_pairs_perm _ _).symm

/-- **A comparison is exact.** The findings of one key are paired in order; what is new is what the head
has beyond the pairs and what is removed what the base has beyond them, so that no finding is lost or
counted twice; and what is changed are the pairs that differ, each with the names of the fields it
differs in. -/
theorem ofReviews_exact (base head : Review) :
    let c := ofReviews base head
    let ps := pairs base.findings head.findings
    (∀ p, p ∈ ps ↔ nth? base.findings p.key p.index = some p.base ∧
      nth? head.findings p.key p.index = some p.head) ∧
    (ps.map fun p => (p.key, p.index)).Nodup ∧
    c.new.Perm (surplus head.findings base.findings) ∧
    c.removed.Perm (surplus base.findings head.findings) ∧
    head.findings.Perm (c.new ++ ps.map (·.head)) ∧
    base.findings.Perm (c.removed ++ ps.map (·.base)) ∧
    c.changed.Perm ((ps.filter fun p => differingFields p.base p.head ≠ []).map Pair.change) ∧
    (∃ fields, c.toJson = .obj fields ∧ fields.lookup "summary" =
      some (.obj [("new", .int c.new.length), ("removed", .int c.removed.length),
        ("changed", .int c.changed.length)])) ∧
    (c.new.Pairwise fun a b => a.line < b.line ∨ a.line = b.line ∧ a.rule ≤ b.rule) ∧
    (c.removed.Pairwise fun a b => a.line < b.line ∨ a.line = b.line ∧ a.rule ≤ b.rule) ∧
    c.changed.Pairwise fun a b => a.key < b.key := by
  intro c ps
  exact ⟨fun p => mem_pairs_iff, nodup_pairs _ _, unmatched_index_perm _ _,
    unmatched_index_perm _ _, head_perm base head, base_perm base head, changed_perm base head,
    ⟨_, rfl, rfl⟩, unmatched_sorted _ _, unmatched_sorted _ _, changed_sorted base head⟩

/-! ## Matching by rule, title and line -/

/-- Findings are matched by rule, title and line: pairs agree in the three, and a finding whose three
are not in the other review is always new or removed. -/
structure MatchesByTriple (base head : Review) : Prop where
  pairs_agree : ∀ p ∈ pairs base.findings head.findings, triple p.base = triple p.head
  new_complete : ∀ f, triple f ∉ base.findings.map triple →
    (ofReviews base head).new.count f = head.findings.count f
  removed_complete : ∀ f, triple f ∉ head.findings.map triple →
    (ofReviews base head).removed.count f = base.findings.count f

theorem base_mem_of_mem_pairs {base head : List Finding} {p : Pair} (hp : p ∈ pairs base head) :
    p.base ∈ base :=
  List.mem_of_mem_filter (List.mem_of_getElem? (mem_pairs_iff.mp hp).1)

theorem head_mem_of_mem_pairs {base head : List Finding} {p : Pair} (hp : p ∈ pairs base head) :
    p.head ∈ head :=
  List.mem_of_mem_filter (List.mem_of_getElem? (mem_pairs_iff.mp hp).2)

/-- Pairs that agree take no finding away from the new and removed ones that has no like on the other
side. -/
theorem MatchesByTriple.of_pairs_agree {base head : Review}
    (h : ∀ p ∈ pairs base.findings head.findings, triple p.base = triple p.head) :
    MatchesByTriple base head where
  pairs_agree := h
  new_complete f hf := by
    have hnone : ((pairs base.findings head.findings).map (·.head)).count f = 0 := by
      rw [List.count_eq_zero]
      intro hmem
      obtain ⟨p, hp, rfl⟩ := List.mem_map.mp hmem
      exact hf (List.mem_map.mpr ⟨p.base, base_mem_of_mem_pairs hp, h p hp⟩)
    rw [(head_perm base head).count_eq, List.count_append, hnone, Nat.add_zero]
  removed_complete f hf := by
    have hnone : ((pairs base.findings head.findings).map (·.base)).count f = 0 := by
      rw [List.count_eq_zero]
      intro hmem
      obtain ⟨p, hp, rfl⟩ := List.mem_map.mp hmem
      exact hf (List.mem_map.mpr ⟨p.head, head_mem_of_mem_pairs hp, (h p hp).symm⟩)
    rw [(base_perm base head).count_eq, List.count_append, hnone, Nat.add_zero]

theorem pairs_agree_iff {base head : List Finding} {p : Pair} (hp : p ∈ pairs base head) :
    triple p.base = triple p.head ↔ ¬ BarShift p.base p.head ∧ ¬ BarShift p.head p.base := by
  obtain ⟨hbase, hhead⟩ := mem_pairs_iff.mp hp
  have hkey : key p.base = key p.head := (key_of_nth? hbase).trans (key_of_nth? hhead).symm
  constructor
  · intro h
    exact ⟨fun hshift => hshift.triple_ne h, fun hshift => hshift.triple_ne h.symm⟩
  · rintro ⟨hleft, hright⟩
    rcases key_eq_iff.mp hkey with h | h | h
    · exact h
    · exact absurd h hleft
    · exact absurd h hright

/-- Findings are matched by rule, title and line exactly if in no pair a part between bars moved from
the rule of one finding to the title of the other. That is so for all reviews whose rules have no bar
in them. -/
theorem matchesByTriple_iff (base head : Review) :
    (MatchesByTriple base head ↔ ∀ p ∈ pairs base.findings head.findings,
      ¬ BarShift p.base p.head ∧ ¬ BarShift p.head p.base) ∧
    ((∀ f ∈ base.findings ++ head.findings, '|' ∉ (normalized f.rule).toList) →
      MatchesByTriple base head) := by
  constructor
  · constructor
    · intro h p hp
      exact (pairs_agree_iff hp).mp (h.pairs_agree p hp)
    · intro h
      exact .of_pairs_agree fun p hp => (pairs_agree_iff hp).mpr (h p hp)
  · intro hbar
    refine .of_pairs_agree fun p hp => (pairs_agree_iff hp).mpr ⟨?_, ?_⟩
    · rintro ⟨-, part, hrule, -⟩
      refine hbar p.base (List.mem_append_left _ (base_mem_of_mem_pairs hp)) ?_
      simp [hrule]
    · rintro ⟨-, part, hrule, -⟩
      refine hbar p.head (List.mem_append_right _ (head_mem_of_mem_pairs hp)) ?_
      simp [hrule]

/-- A review with one finding at line 1. -/
def reviewOf (rule title : String) : Review :=
  { issues := some [{ rule := rule, title := title, line := 1 }] }

/-- The rule `A|B` with the title `C` is taken for the rule `A` with the title `B|C`: the comparison is
empty though the reviews share no rule and no title. -/
theorem not_matchesByTriple_bar :
    ¬ MatchesByTriple (reviewOf "A|B" "C") (reviewOf "A" "B|C") ∧
      (ofReviews (reviewOf "A|B" "C") (reviewOf "A" "B|C")).new = [] ∧
      (ofReviews (reviewOf "A|B" "C") (reviewOf "A" "B|C")).removed = [] := by
  refine ⟨?_, by decide +kernel, by decide +kernel⟩
  intro h
  have := h.new_complete { rule := "A", title := "B|C", line := 1 } (by decide +kernel)
  revert this
  decide +kernel

end JavaReview.Comparison
