import JavaReview.Proofs.Comparison.Keys
import Mathlib.Data.List.Induction
import Mathlib.Data.List.Nodup

/-!
Findings numbered within their keys. The index of a review puts the finding that is the `n`-th of its
key under the `n`-th numbered key (`Comparison.index_eq`), so that looking up the `n`-th numbered key of
a key gives the `n`-th finding of that key (`Comparison.lookup_index`).
-/

namespace JavaReview.Comparison

/-- How many findings have a key. -/
def countKey (k : String) (fs : List Finding) : Nat := fs.countP (key · = k)

/-- The finding of a key that `n` others of the key precede. -/
def nth? (fs : List Finding) (k : String) (n : Nat) : Option Finding :=
  (fs.filter (key · = k))[n]?

/-- A finding and its number among the findings of its key, counted from 1. -/
structure Occurrence where
  number : Nat
  finding : Finding

namespace Occurrence

/-- The key of the finding. -/
def key (o : Occurrence) : String := Comparison.key o.finding

/-- The numbered key. -/
def label (o : Occurrence) : String := numberedKey o.key o.number

end Occurrence

/-- The findings, each with its number. -/
def occurrences (fs : List Finding) : List Occurrence :=
  fs.zipIdx.map fun p => ⟨countKey (key p.1) (fs.take (p.2 + 1)), p.1⟩

@[simp] theorem countKey_append (k : String) (fs gs : List Finding) :
    countKey k (fs ++ gs) = countKey k fs + countKey k gs := List.countP_append

theorem countKey_singleton (k : String) (f : Finding) :
    countKey k [f] = if key f = k then 1 else 0 := by
  simp [countKey, List.countP_cons]

theorem length_filter_key (k : String) (fs : List Finding) :
    (fs.filter (key · = k)).length = countKey k fs := List.countP_eq_length_filter.symm

theorem nth?_eq_none_iff {fs : List Finding} {k : String} {n : Nat} :
    nth? fs k n = none ↔ countKey k fs ≤ n := by
  rw [nth?, List.getElem?_eq_none_iff, length_filter_key]

theorem key_of_nth? {fs : List Finding} {k : String} {n : Nat} {f : Finding}
    (h : nth? fs k n = some f) : key f = k := by
  simpa using (List.mem_filter.mp (List.mem_of_getElem? h)).2

/-- One more finding is found only behind all others of its key. -/
theorem nth?_concat (fs : List Finding) (f : Finding) (k : String) (n : Nat) :
    nth? (fs ++ [f]) k n =
      (nth? fs k n).or (if key f = k ∧ n = countKey k fs then some f else none) := by
  rw [nth?, List.filter_append, List.getElem?_append, length_filter_key]
  by_cases hn : n < countKey k fs
  · have hsome : nth? fs k n ≠ none := fun h => by
      have := nth?_eq_none_iff.mp h
      omega
    rw [if_pos hn]
    obtain ⟨g, hg⟩ := Option.ne_none_iff_exists'.mp hsome
    rw [← nth?, hg]
    rfl
  · rw [if_neg hn, nth?_eq_none_iff.mpr (by omega), Option.none_or]
    by_cases hk : key f = k
    · have : (n - countKey k fs = 0) ↔ n = countKey k fs := by omega
      simp [hk, List.getElem?_singleton, this]
    · simp [hk]

theorem occurrences_concat (fs : List Finding) (f : Finding) :
    occurrences (fs ++ [f]) = occurrences fs ++ [⟨countKey (key f) fs + 1, f⟩] := by
  unfold occurrences
  rw [List.zipIdx_append, List.map_append]
  congr 1
  · refine List.map_congr_left fun p hp => ?_
    have hlt := List.snd_lt_of_mem_zipIdx hp
    rw [List.take_append_of_le_length (by omega)]
  · have hall : (fs ++ [f]).take (fs.length + 1) = fs ++ [f] := List.take_of_length_le (by simp)
    simp [hall, countKey_singleton]

theorem number_pos {fs : List Finding} {o : Occurrence} (h : o ∈ occurrences fs) :
    1 ≤ o.number := by
  induction fs using List.reverseRecOn with
  | nil => cases h
  | append_singleton fs f ih =>
    rw [occurrences_concat, List.mem_append, List.mem_singleton] at h
    rcases h with h | rfl
    · exact ih h
    · exact Nat.succ_pos _

/-- An occurrence is found by its key and number. -/
theorem nth?_of_mem_occurrences {fs : List Finding} {o : Occurrence} (h : o ∈ occurrences fs) :
    nth? fs o.key (o.number - 1) = some o.finding := by
  induction fs using List.reverseRecOn with
  | nil => cases h
  | append_singleton fs f ih =>
    rw [occurrences_concat, List.mem_append, List.mem_singleton] at h
    rcases h with h | rfl
    · rw [nth?_concat, ih h]
      rfl
    · rw [nth?_concat, Nat.add_sub_cancel, Occurrence.key, nth?_eq_none_iff.mpr (Nat.le_refl _)]
      simp

/-- What is found by a key and a number occurs with them. -/
theorem mem_occurrences_of_nth? {fs : List Finding} {k : String} {n : Nat} {f : Finding}
    (h : nth? fs k n = some f) : ⟨n + 1, f⟩ ∈ occurrences fs := by
  induction fs using List.reverseRecOn with
  | nil => simp [nth?] at h
  | append_singleton fs g ih =>
    rw [occurrences_concat, List.mem_append, List.mem_singleton]
    rw [nth?_concat] at h
    cases hold : nth? fs k n with
    | some f' =>
      rw [hold] at h
      cases h
      exact .inl (ih hold)
    | none =>
      rw [hold, Option.none_or] at h
      split at h
      · rename_i hg
        cases h
        right
        rw [hg.1, hg.2]
      · cases h

/-- The numbered keys of a review differ. -/
theorem label_inj {fs gs : List Finding} {o p : Occurrence} (ho : o ∈ occurrences fs)
    (hp : p ∈ occurrences gs) (h : o.label = p.label) : o.key = p.key ∧ o.number = p.number :=
  numberedKey_inj (number_pos ho) (number_pos hp) h

theorem number_le_of_mem_occurrences {fs : List Finding} {o : Occurrence}
    (h : o ∈ occurrences fs) : o.number ≤ countKey o.key fs := by
  have hsome := nth?_of_mem_occurrences h
  have hpos := number_pos h
  by_contra hlt
  rw [nth?_eq_none_iff.mpr (by omega)] at hsome
  cases hsome

theorem nodup_labels (fs : List Finding) : ((occurrences fs).map Occurrence.label).Nodup := by
  induction fs using List.reverseRecOn with
  | nil => exact List.nodup_nil
  | append_singleton fs f ih =>
    rw [occurrences_concat, List.map_append, List.nodup_append]
    refine ⟨ih, List.nodup_singleton _, ?_⟩
    rintro k hk k' hk' rfl
    obtain ⟨o, ho, rfl⟩ := List.mem_map.mp hk
    rw [List.map_singleton, List.mem_singleton] at hk'
    obtain ⟨hkey, hnumber⟩ := numberedKey_inj (number_pos ho) (Nat.succ_pos _) hk'
    have hle := number_le_of_mem_occurrences ho
    rw [Occurrence.key, hkey, hnumber] at hle
    exact absurd hle (Nat.not_succ_le_self _)

/-! ## The index of a review -/

/-- The search for a free key stops at the first number that is not taken. -/
theorem freeKey_eq {taken : List String} {k : String} {n d bound : Nat} (hbound : d ≤ bound)
    (htaken : ∀ i < d, numberedKey k (n + i) ∈ taken) (hfree : numberedKey k (n + d) ∉ taken) :
    freeKey taken k n bound = numberedKey k (n + d) := by
  induction d generalizing n bound with
  | zero =>
    cases bound with
    | zero => rfl
    | succ bound => exact if_neg hfree
  | succ d ih =>
    obtain ⟨bound, rfl⟩ : ∃ b, bound = b + 1 := ⟨bound - 1, by omega⟩
    have hnow : numberedKey k n ∈ taken := htaken 0 (Nat.succ_pos d)
    rw [freeKey, if_pos hnow, ih (by omega), Nat.add_right_comm, Nat.add_assoc]
    · intro i hi
      rw [Nat.add_right_comm, Nat.add_assoc]
      exact htaken (i + 1) (by omega)
    · rwa [Nat.add_right_comm, Nat.add_assoc]

theorem indexFrom_concat (done : List (String × Finding)) (fs : List Finding) (f : Finding) :
    indexFrom done (fs ++ [f]) = indexFrom done fs ++
      [(freeKey ((indexFrom done fs).map (·.1)) (key f) 1 (indexFrom done fs).length, f)] := by
  induction fs generalizing done with
  | nil => rfl
  | cons g fs ih => exact ih _

theorem index_eq (fs : List Finding) :
    index fs = (occurrences fs).map fun o => (o.label, o.finding) := by
  induction fs using List.reverseRecOn with
  | nil => rfl
  | append_singleton fs f ih =>
    have hcount : countKey (key f) fs ≤ fs.length := List.countP_le_length
    have hlength : (index fs).length = fs.length := by simp [ih, occurrences]
    have hkeys : (index fs).map (·.1) = (occurrences fs).map Occurrence.label := by
      simp [ih, Function.comp_def]
    have hfree : freeKey ((index fs).map (·.1)) (key f) 1 (index fs).length =
        numberedKey (key f) (1 + countKey (key f) fs) := by
      rw [hkeys, hlength]
      refine freeKey_eq hcount (fun i hi => ?_) fun hmem => ?_
      · -- the numbers up to the count are those of the earlier findings of the key
        obtain ⟨g, hg⟩ : ∃ g, nth? fs (key f) i = some g :=
          Option.ne_none_iff_exists'.mp fun h => by
            have := nth?_eq_none_iff.mp h
            omega
        refine List.mem_map.mpr ⟨_, mem_occurrences_of_nth? hg, ?_⟩
        rw [Occurrence.label, Occurrence.key, key_of_nth? hg, Nat.add_comm]
      · -- and the next number is not, since labels tell key and number
        obtain ⟨o, ho, heq⟩ := List.mem_map.mp hmem
        obtain ⟨hkey, hnumber⟩ := numberedKey_inj (number_pos ho) (by omega) heq
        have hle := number_le_of_mem_occurrences ho
        rw [Occurrence.key, hkey] at hle
        omega
    rw [occurrences_concat, List.map_append, ← ih, index, indexFrom_concat]
    rw [index] at hfree
    rw [hfree, Nat.add_comm 1]
    rfl

theorem lookup_eq_some_of_mem {l : List (String × Finding)} (hnodup : (l.map (·.1)).Nodup)
    {k : String} {f : Finding} (h : (k, f) ∈ l) : l.lookup k = some f := by
  induction l with
  | nil => cases h
  | cons e l ih =>
    rw [List.map_cons, List.nodup_cons] at hnodup
    rcases List.mem_cons.mp h with rfl | h
    · exact List.lookup_cons_self
    · have hne : k ≠ e.1 := fun heq => hnodup.1 (heq ▸ List.mem_map.mpr ⟨_, h, rfl⟩)
      rw [List.lookup_cons, beq_eq_false_iff_ne.mpr hne]
      exact ih hnodup.2 h

/-- Looking up a numbered key gives the finding that has it. -/
theorem lookup_index {fs gs : List Finding} {o : Occurrence} (ho : o ∈ occurrences gs) :
    (index fs).lookup o.label = nth? fs o.key (o.number - 1) := by
  rw [index_eq]
  cases hfound : nth? fs o.key (o.number - 1) with
  | none =>
    rw [List.lookup_eq_none_iff]
    intro e he
    obtain ⟨p, hp, rfl⟩ := List.mem_map.mp he
    rw [bne_iff_ne]
    intro heq
    obtain ⟨hkey, hnumber⟩ := label_inj ho hp heq
    rw [hkey, hnumber, nth?_of_mem_occurrences hp] at hfound
    cases hfound
  | some f =>
    have hnumber : o.number - 1 + 1 = o.number := Nat.sub_add_cancel (number_pos ho)
    have hmem := mem_occurrences_of_nth? hfound
    rw [hnumber] at hmem
    refine lookup_eq_some_of_mem (by simpa [Function.comp_def] using nodup_labels fs) ?_
    refine List.mem_map.mpr ⟨_, hmem, ?_⟩
    rw [Occurrence.label, Occurrence.key, key_of_nth? hfound]
    rfl

end JavaReview.Comparison
