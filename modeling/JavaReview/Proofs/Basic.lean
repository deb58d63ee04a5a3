import Mathlib.Data.List.Forall2
import Mathlib.Data.List.Induction
import Mathlib.Data.List.Sort

/-!
Facts about results and lists that the other modules share. What holds at the end of a run and not at its
start began to hold somewhere (`exists_last_onset`). Merging is defined by a recursion that does not
evaluate in proofs; inserting one element after the other gives the same order
(`mergeSort_eq_insertionSort`).
-/

namespace JavaReview

/-! ## Results -/

section

variable {ε ε' α β : Type}

theorem map_eq_ok_iff {f : α → β} {x : Except ε α} {b : β} :
    x.map f = .ok b ↔ ∃ a, x = .ok a ∧ f a = b := by
  cases x <;> simp [Except.map]

theorem mapError_eq_ok_iff {f : ε → ε'} {x : Except ε α} {a : α} :
    x.mapError f = .ok a ↔ x = .ok a := by
  constructor
  · intro h
    cases x with
    | ok b => exact congrArg Except.ok (Except.ok.inj h)
    | error e => cases h
  · rintro rfl
    rfl

theorem bind_eq_ok_iff {x : Except ε α} {f : α → Except ε β} {b : β} :
    x >>= f = .ok b ↔ ∃ a, x = .ok a ∧ f a = .ok b := by
  cases x with
  | ok a => simp [bind, Except.bind]
  | error e => simp [bind, Except.bind]

theorem toOption_eq_some_iff {x : Except ε α} {a : α} : x.toOption = some a ↔ x = .ok a := by
  cases x <;> simp [Except.toOption]

end

/-! ## Lists -/

theorem exists_mem_of_forall₂ {α β : Type} {R : α → β → Prop} {as : List α} {bs : List β}
    (h : List.Forall₂ R as bs) {a : α} (ha : a ∈ as) : ∃ b ∈ bs, R a b := by
  induction h with
  | nil => cases ha
  | cons hab _ ih =>
    rcases List.mem_cons.mp ha with rfl | ha
    · exact ⟨_, List.mem_cons_self, hab⟩
    · obtain ⟨b, hb, hab⟩ := ih ha
      exact ⟨b, List.mem_cons_of_mem _ hb, hab⟩

/-- What holds of a list and not of the empty one began to hold at some element for the last time. -/
theorem exists_last_onset {α : Type} {P : List α → Prop} {l : List α} (hnil : ¬ P []) (h : P l) :
    ∃ before a since, l = before ++ a :: since ∧ ¬ P before ∧
      ∀ mid, mid <+: since → P (before ++ a :: mid) := by
  induction l using List.reverseRecOn with
  | nil => exact absurd h hnil
  | append_singleton l b ih =>
    by_cases hl : P l
    · obtain ⟨before, a, since, rfl, hbefore, hsince⟩ := ih hl
      refine ⟨before, a, since ++ [b], by simp, hbefore, ?_⟩
      intro mid hmid
      rcases List.prefix_concat_iff.mp hmid with rfl | hmid
      · simpa using h
      · exact hsince mid hmid
    · refine ⟨l, b, [], rfl, hl, ?_⟩
      intro mid hmid
      rw [List.prefix_nil.mp hmid]
      exact h

theorem mergeSort_eq_insertionSort {α : Type} {le : α → α → Bool}
    (trans : ∀ a b c, le a b = true → le b c = true → le a c = true)
    (total : ∀ a b, (le a b || le b a) = true) (l : List α) :
    l.mergeSort le = l.insertionSort (le · ·) := by
  induction l with
  | nil => rw [List.mergeSort_nil, List.insertionSort_nil]
  | cons a l ih =>
    obtain ⟨before, after, hcons, hl, hbefore⟩ := List.mergeSort_cons trans total a l
    have hsorted := List.pairwise_mergeSort trans total (a :: l)
    rw [hcons, List.pairwise_append, List.pairwise_cons] at hsorted
    have hnot : ∀ b ∈ before, decide (¬ le a b = true) = true := by simpa using hbefore
    rw [hcons, List.insertionSort_cons, ← ih, hl, List.orderedInsert_eq_take_drop,
      List.takeWhile_append_of_pos hnot, List.dropWhile_append_of_pos hnot]
    cases after with
    | nil => simp
    | cons b after => simp [hsorted.2.1.1 b List.mem_cons_self]

end JavaReview
