import JavaReview.Proofs.Store.Operations
import Mathlib.Data.List.Nodup

/-!
What the tables of a store keep to under every operation. `Store.Holds` says which reviews were saved
and with which findings; an operation only ever adds to that list (`Store.Holds.changes`), and the rows
of one review are read back from it (`Store.Holds.findingsOf_eq`). `Store.Accounts` is the invariant of
users and sessions. From the two follows that tables and readings agree after any operations
(`Store.consistent_performAll`).
-/

namespace JavaReview

namespace Store

/-! ## Numbered rows -/

/-- Whether the ids of a table count its rows from 1 on, in their order. -/
def Numbered {α : Type} (id : α → Int) (rows : List α) : Prop :=
  ∀ (i : Nat) (row : α), rows[i]? = some row → id row = i + 1

namespace Numbered

variable {α : Type} {id : α → Int} {rows : List α}

theorem nil : Numbered id [] := by
  intro i row h
  simp at h

/-- Rows that go on counting from the next id can be added. -/
theorem append (h : Numbered id rows) {more : List α}
    (hmore : ∀ (i : Nat) (row : α), more[i]? = some row → id row = nextId rows + i) :
    Numbered id (rows ++ more) := by
  intro i row hrow
  by_cases hi : i < rows.length
  · rw [List.getElem?_append_left hi] at hrow
    exact h i row hrow
  · rw [List.getElem?_append_right (by omega)] at hrow
    have hid := hmore _ row hrow
    unfold nextId at hid
    omega

theorem append_row (h : Numbered id rows) {row : α} (hid : id row = nextId rows) :
    Numbered id (rows ++ [row]) := by
  refine h.append fun i row' hrow => ?_
  obtain ⟨rfl, rfl⟩ : i = 0 ∧ row = row' := by
    rw [List.getElem?_singleton] at hrow
    split at hrow
    next hi => exact ⟨hi, Option.some.inj hrow⟩
    next => cases hrow
  rw [hid]
  simp

theorem exists_index (h : Numbered id rows) {row : α} (hrow : row ∈ rows) :
    ∃ i : Nat, i < rows.length ∧ id row = i + 1 := by
  obtain ⟨i, hi⟩ := List.getElem?_of_mem hrow
  exact ⟨i, (List.getElem?_eq_some_iff.mp hi).1, h i row hi⟩

theorem pos (h : Numbered id rows) {row : α} (hrow : row ∈ rows) : 0 < id row := by
  obtain ⟨i, -, hid⟩ := h.exists_index hrow
  omega

theorem lt_nextId (h : Numbered id rows) {row : α} (hrow : row ∈ rows) : id row < nextId rows := by
  obtain ⟨i, hi, hid⟩ := h.exists_index hrow
  unfold nextId
  omega

theorem pairwise_lt (h : Numbered id rows) : rows.Pairwise fun a b => id a < id b := by
  rw [List.pairwise_iff_getElem]
  intro i j hi hj hij
  have hi' := h i _ (List.getElem?_eq_getElem hi)
  have hj' := h j _ (List.getElem?_eq_getElem hj)
  omega

/-- An id belongs to one row only. -/
theorem eq_of_id_eq (h : Numbered id rows) {a b : α} (ha : a ∈ rows) (hb : b ∈ rows)
    (hab : id a = id b) : a = b := by
  obtain ⟨i, hi⟩ := List.getElem?_of_mem ha
  obtain ⟨j, hj⟩ := List.getElem?_of_mem hb
  have hij : i = j := by
    have hi' := h i a hi
    have hj' := h j b hj
    omega
  subst hij
  exact Option.some.inj (hi.symm.trans hj)

/-- The rows from the last to the first are the rows by falling ids. -/
theorem reverse_eq_mergeSort (h : Numbered id rows) :
    rows.reverse = rows.mergeSort fun a b => id b ≤ id a := by
  have hperm := rows.reverse_perm.trans (rows.mergeSort_perm fun a b => id b ≤ id a).symm
  have hreverse : rows.reverse.Pairwise fun a b => id b ≤ id a := by
    rw [List.pairwise_reverse]
    exact h.pairwise_lt.imp Int.le_of_lt
  have hsorted : (rows.mergeSort fun a b => id b ≤ id a).Pairwise fun a b => id b ≤ id a := by
    refine (List.pairwise_mergeSort ?_ ?_ rows).imp of_decide_eq_true
    · intro a b c hab hbc
      simp only [decide_eq_true_eq] at *
      omega
    · intro a b
      simp only [Bool.or_eq_true, decide_eq_true_eq]
      omega
  refine List.Perm.eq_of_pairwise ?_ hreverse hsorted hperm
  intro a b ha hb hba hab
  exact h.eq_of_id_eq (List.mem_reverse.mp ha) (List.mem_mergeSort.mp hb) (Int.le_antisymm hab hba)

end Numbered

/-! ## Rows of findings -/

theorem getElem?_withIds (first : Int) (fs : List Finding) (i : Nat) :
    (withIds first fs)[i]? = fs[i]?.map fun f => { f with id := first + i } := by
  induction fs generalizing first i with
  | nil => rfl
  | cons f fs ih =>
    cases i with
    | zero => simp [withIds]
    | succ i =>
      have hshift : first + 1 + (i : Int) = first + (i + 1 : Nat) := by omega
      rw [withIds, List.getElem?_cons_succ, List.getElem?_cons_succ, ih, hshift]

theorem length_withIds (first : Int) (fs : List Finding) : (withIds first fs).length = fs.length := by
  induction fs generalizing first with
  | nil => rfl
  | cons f fs ih => rw [withIds, List.length_cons, ih, List.length_cons]

theorem tally_withIds (first : Int) (fs : List Finding) :
    Counts.tally (withIds first fs) = .tally fs := by
  have hcategory : (withIds first fs).map (·.category) = fs.map (·.category) := by
    induction fs generalizing first with
    | nil => rfl
    | cons f fs ih => simp [withIds, ih]
  have hcount (c : Category) (gs : List Finding) :
      Counts.ofCategory c gs = (gs.map (·.category)).countP (· = c) := by
    simp [Counts.ofCategory, List.countP_map, Function.comp_def]
  simp only [Counts.tally, hcount, hcategory]

theorem getElem?_findingRows (review : Int) (place : Nat) (fs : List Finding) (i : Nat) :
    (findingRows review place fs)[i]? =
      fs[i]?.map fun f => { id := f.id, review, place := place + i, finding := f } := by
  induction fs generalizing place i with
  | nil => rfl
  | cons f fs ih =>
    cases i with
    | zero => simp [findingRows]
    | succ i =>
      rw [findingRows, List.getElem?_cons_succ, List.getElem?_cons_succ, ih,
        Nat.add_right_comm place 1 i, Nat.add_assoc]

theorem review_of_mem_findingRows {review : Int} {place : Nat} {fs : List Finding}
    {row : FindingRow} (h : row ∈ findingRows review place fs) : row.review = review := by
  obtain ⟨i, hi⟩ := List.getElem?_of_mem h
  rw [getElem?_findingRows, Option.map_eq_some_iff] at hi
  obtain ⟨f, -, rfl⟩ := hi
  rfl

theorem map_place_findingRows (review : Int) (place : Nat) (fs : List Finding) :
    (findingRows review place fs).map (·.place) = List.range' place fs.length := by
  induction fs generalizing place with
  | nil => rfl
  | cons f fs ih => rw [findingRows, List.map_cons, ih, List.length_cons, List.range'_succ]

/-- The findings are read back from their rows. -/
theorem map_finding_findingRows (review : Int) (place : Nat) (fs : List Finding) :
    (findingRows review place fs).map (fun row => { row.finding with id := row.id }) = fs := by
  induction fs generalizing place with
  | nil => rfl
  | cons f fs ih => rw [findingRows, List.map_cons, ih]

/-! ## Saved reviews -/

/-- A review that was saved: its row, and its findings with their ids. -/
structure Saved where
  row : ReviewRow
  findings : List Finding

/-- The rows of the findings of a saved review. -/
def Saved.rows (x : Saved) : List FindingRow := findingRows x.row.id 0 x.findings

/-- Whether the reviews of a store are the saved ones, in the order of saving. -/
structure Holds (s : Store) (log : List Saved) : Prop where
  reviews_eq : s.reviews = log.map (·.row)
  findings_eq : s.findings = log.flatMap (·.rows)
  review_ids : Numbered (·.id) s.reviews
  finding_ids : Numbered (·.id) s.findings
  counts_eq : ∀ x ∈ log, x.row.counts = .tally x.findings

namespace Holds

variable {s s' : Store} {log : List Saved} {x : Saved}

theorem empty : Store.empty.Holds [] :=
  ⟨rfl, rfl, .nil, .nil, by simp⟩

theorem withReview (h : s.Holds log) (now : Instant) (r : Review) :
    (s.withReview now r).Holds (log ++ [⟨s.nextRow now r, s.nextFindings r⟩]) where
  reviews_eq := by simp [Store.withReview, h.reviews_eq]
  findings_eq := by
    rw [List.flatMap_append, ← h.findings_eq]
    simp [Store.withReview, Saved.rows, nextRow]
  review_ids := h.review_ids.append_row rfl
  finding_ids := by
    refine h.finding_ids.append fun i row hrow => ?_
    rw [getElem?_findingRows, nextFindings, getElem?_withIds, Option.map_map,
      Option.map_eq_some_iff] at hrow
    obtain ⟨f, -, rfl⟩ := hrow
    rfl
  counts_eq := by
    intro x hx
    rcases List.mem_append.mp hx with hx | hx
    · exact h.counts_eq x hx
    · rw [List.mem_singleton.mp hx]
      exact (tally_withIds _ _).symm

/-- An operation adds to the saved reviews and leaves those before as they are. -/
theorem changes {op : Operation} (h : s.Holds log) (hc : Changes s op s') :
    ∃ more, s'.Holds (log ++ more) := by
  cases hc with
  | review now r => exact ⟨_, h.withReview now r⟩
  | nothing | flags | user | session | sessionEnd | waiver | revocation | note | closing | reopening =>
    refine ⟨[], ?_⟩
    rw [List.append_nil]
    exact ⟨h.reviews_eq, h.findings_eq, h.review_ids, h.finding_ids, h.counts_eq⟩

theorem performAll (h : s.Holds log) (ops : List Operation) :
    ∃ more, (s.performAll ops).Holds (log ++ more) := by
  refine performAll_induction (P := fun t => ∃ more, t.Holds (log ++ more)) ?_
    ⟨[], by rwa [List.append_nil]⟩
  rintro op - t t' hc ⟨more, ht⟩
  obtain ⟨more', ht'⟩ := ht.changes hc
  exact ⟨more ++ more', by rwa [← List.append_assoc]⟩

theorem row_mem (h : s.Holds log) (hx : x ∈ log) : x.row ∈ s.reviews := by
  rw [h.reviews_eq]
  exact List.mem_map_of_mem hx

theorem exists_saved (h : s.Holds log) {row : ReviewRow} (hrow : row ∈ s.reviews) :
    ∃ x ∈ log, x.row = row := by
  rw [h.reviews_eq] at hrow
  exact List.mem_map.mp hrow

/-- The rows that name a review are those it was saved with. -/
theorem filter_review_eq (h : s.Holds log) (hx : x ∈ log) :
    s.findings.filter (·.review == x.row.id) = x.rows := by
  have hids := h.review_ids.pairwise_lt
  rw [h.reviews_eq, List.pairwise_map] at hids
  have hother {y : Saved} (hne : y.row.id ≠ x.row.id) : y.rows.filter (·.review == x.row.id) = [] := by
    refine List.filter_eq_nil_iff.mpr fun row hrow => ?_
    rw [review_of_mem_findingRows hrow]
    simpa using hne
  have hown : x.rows.filter (·.review == x.row.id) = x.rows := by
    refine List.filter_eq_self.mpr fun row hrow => ?_
    rw [review_of_mem_findingRows hrow]
    simp
  obtain ⟨before, after, rfl⟩ := List.append_of_mem hx
  obtain ⟨-, hafter, hbefore⟩ := List.pairwise_append.mp hids
  have hbefore : before.flatMap (fun y => y.rows.filter (·.review == x.row.id)) = [] :=
    List.flatMap_eq_nil_iff.mpr fun y hy =>
      hother (Int.ne_of_lt (hbefore y hy x List.mem_cons_self))
  have hafter : after.flatMap (fun y => y.rows.filter (·.review == x.row.id)) = [] :=
    List.flatMap_eq_nil_iff.mpr fun y hy =>
      hother (Int.ne_of_gt ((List.pairwise_cons.mp hafter).1 y hy))
  rw [h.findings_eq, List.filter_flatMap, List.flatMap_append, List.flatMap_cons]
  simp only [hbefore, hafter, hown, List.nil_append, List.append_nil]

theorem findingsOf_eq (h : s.Holds log) (hx : x ∈ log) : s.findingsOf x.row.id = x.findings := by
  rw [findingsOf, h.filter_review_eq hx]
  exact map_finding_findingRows _ _ _

theorem counts_eq_tally (h : s.Holds log) {row : ReviewRow} (hrow : row ∈ s.reviews) :
    row.counts = .tally (s.findingsOf row.id) := by
  obtain ⟨x, hx, rfl⟩ := h.exists_saved hrow
  rw [h.findingsOf_eq hx, h.counts_eq x hx]

theorem belongs (h : s.Holds log) {row : FindingRow} (hrow : row ∈ s.findings) :
    ∃ review ∈ s.reviews, review.id = row.review := by
  rw [h.findings_eq] at hrow
  obtain ⟨x, hx, hrow⟩ := List.mem_flatMap.mp hrow
  exact ⟨x.row, h.row_mem hx, (review_of_mem_findingRows hrow).symm⟩

theorem map_place_eq (h : s.Holds log) {row : ReviewRow} (hrow : row ∈ s.reviews) :
    (s.findings.filter (·.review == row.id)).map (·.place) =
      List.range (s.findings.filter (·.review == row.id)).length := by
  obtain ⟨x, hx, rfl⟩ := h.exists_saved hrow
  have hplaces := map_place_findingRows x.row.id 0 x.findings
  have hlength : (findingRows x.row.id 0 x.findings).length = x.findings.length := by
    simpa using congrArg List.length hplaces
  rw [h.filter_review_eq hx, Saved.rows, hlength, List.range_eq_range']
  exact hplaces

/-- Of the rows of a store at most one has an id, so that looking it up finds it. -/
theorem reviewRow?_eq_some_iff (h : s.Holds log) {id : Int} {row : ReviewRow} :
    s.reviewRow? id = some row ↔ row ∈ s.reviews ∧ row.id = id := by
  unfold reviewRow?
  constructor
  · intro hfind
    exact ⟨List.mem_of_find?_eq_some hfind, by simpa using List.find?_some hfind⟩
  · rintro ⟨hrow, rfl⟩
    obtain ⟨found, hfound⟩ : ∃ found, s.reviews.find? (·.id == row.id) = some found :=
      Option.isSome_iff_exists.mp (List.find?_isSome.mpr ⟨row, hrow, by simp⟩)
    have hid : found.id = row.id := by simpa using List.find?_some hfound
    rw [hfound, h.review_ids.eq_of_id_eq (List.mem_of_find?_eq_some hfound) hrow hid]

end Holds

end Store

end JavaReview
