import JavaReview.Proofs.Store.Tables

/-!
Stores agree with themselves: after any operations from the empty store ids grow in the order of saving,
findings belong to reviews and are counted there, what is listed, summed up and loaded shows the same
reviews, and accounts are told apart by their names and tokens (`Store.consistent_performAll`). Rows are
read in the order of their tables, which is that of places and of falling ids
(`Store.Holds.findingsOf_eq_mergeSort`, `Store.Holds.list_eq_mergeSort`).
-/

namespace JavaReview.Store

/-! ## Accounts -/

/-- The invariant of users and sessions. -/
structure Accounts (s : Store) : Prop where
  user_ids : Numbered (·.id) s.users
  usernames_nodup : (s.users.map (·.username)).Nodup
  tokens_nodup : (s.sessions.map (·.token)).Nodup
  owned : ∀ row ∈ s.sessions, ∃ user ∈ s.users, user.id = row.user

theorem nodup_map_concat {α β : Type} {key : α → β} {rows : List α} {row : α}
    (h : (rows.map key).Nodup) (hfresh : ∀ x ∈ rows, key x ≠ key row) :
    ((rows ++ [row]).map key).Nodup := by
  rw [List.map_append, List.nodup_append]
  refine ⟨h, by simp, ?_⟩
  intro a ha b hb
  obtain ⟨x, hx, rfl⟩ := List.mem_map.mp ha
  rw [List.map_singleton, List.mem_singleton] at hb
  rw [hb]
  exact hfresh x hx

namespace Accounts

variable {s s' : Store}

theorem empty : Store.empty.Accounts := ⟨.nil, by simp [Store.empty], by simp [Store.empty],
  by simp [Store.empty]⟩

theorem changes {op : Operation} (h : s.Accounts) (hc : Changes s op s') : s'.Accounts := by
  cases hc with
  | user row hid hfree =>
    refine { h with user_ids := h.user_ids.append_row hid, usernames_nodup := ?_, owned := ?_ }
    · refine nodup_map_concat h.usernames_nodup fun x hx => ?_
      simpa using List.find?_eq_none.mp hfree x hx
    · intro session hsession
      obtain ⟨user, huser, howner⟩ := h.owned session hsession
      exact ⟨user, List.mem_append_left _ huser, howner⟩
  | session row hfree hknown =>
    refine { h with tokens_nodup := ?_, owned := ?_ }
    · refine nodup_map_concat h.tokens_nodup fun x hx => ?_
      simpa using List.find?_eq_none.mp hfree x hx
    · intro session hsession
      rcases List.mem_append.mp hsession with hsession | hsession
      · exact h.owned session hsession
      · rw [List.mem_singleton.mp hsession]
        exact hknown
  | sessionEnd token =>
    refine { h with tokens_nodup := ?_, owned := ?_ }
    · exact h.tokens_nodup.sublist (List.filter_sublist.map _)
    · intro session hsession
      exact h.owned session (List.mem_of_mem_filter hsession)
  | nothing | review | flags | waiver | revocation | note | closing | reopening =>
    exact ⟨h.user_ids, h.usernames_nodup, h.tokens_nodup, h.owned⟩

end Accounts

/-! ## Readings -/

theorem listFindings_eq_ok {s : Store} {id : Int} {issues : Option (List Finding)}
    (h : s.listFindings id = .ok issues) : issues.getD [] = s.findingsOf id := by
  obtain ⟨-, h⟩ := whenOpen_eq_ok_iff.mp h
  cases hfs : s.findingsOf id with
  | nil =>
    rw [hfs] at h
    cases h
    rfl
  | cons f fs =>
    rw [hfs] at h
    cases h
    rfl

theorem has_eq_true_iff {s : Store} {id : Int} :
    s.has id = .ok true ↔ s.isOpen = true ∧ ∃ row, s.reviewRow? id = some row := by
  rw [has, whenOpen_eq_ok_iff, Except.ok.injEq, Option.isSome_iff_exists]

/-- What loading makes of a row. -/
def loaded (s : Store) (row : ReviewRow) : Review where
  id := row.id
  filename := row.filename
  source := row.source
  createdAt := row.createdAt.load
  version := row.version
  counts := row.counts
  issues := if (s.findingsOf row.id).isEmpty then none else some (s.findingsOf row.id)

theorem load_eq_ok_iff {s : Store} {id : Int} {r : Review} :
    s.load id = .ok r ↔
      s.isOpen = true ∧ ∃ row, s.reviewRow? id = some row ∧ s.loaded row = r := by
  rw [load, whenOpen_eq_ok_iff]
  refine and_congr_right fun hopen => ?_
  cases hrow : s.reviewRow? id with
  | none => simp
  | some row =>
    have hid : row.id = id := by simpa using List.find?_some hrow
    have hlist : s.listFindings id =
        .ok (if (s.findingsOf row.id).isEmpty then none else some (s.findingsOf row.id)) := by
      rw [listFindings, whenOpen, if_pos hopen, hid]
      cases s.findingsOf id <;> rfl
    simp [hlist, bind, Except.bind, pure, Except.pure, loaded]

/-! ## Orders

Rows are read as they lie in their tables, from either end. This is the order of their places in a review,
and that of falling ids. -/

/-- The findings of a review are read in the order of their places. -/
theorem Holds.findingsOf_eq_mergeSort {s : Store} {log : List Saved} (h : s.Holds log) {row : ReviewRow}
    (hrow : row ∈ s.reviews) : s.findingsOf row.id =
      ((s.findings.filter (·.review == row.id)).mergeSort fun a b => a.place ≤ b.place).map
        fun f => { f.finding with id := f.id } := by
  have hplaces : (s.findings.filter (·.review == row.id)).Pairwise fun a b => a.place < b.place := by
    rw [← List.pairwise_map (f := FindingRow.place), h.map_place_eq hrow]
    exact List.pairwise_lt_range
  rw [findingsOf, List.mergeSort_of_pairwise (hplaces.imp fun hlt => decide_eq_true (Nat.le_of_lt hlt))]

/-- Pages are cut out of the reviews by falling ids. -/
theorem Holds.list_eq_mergeSort {s : Store} {log : List Saved} (h : s.Holds log) (limit offset : Int) :
    s.list limit offset =
      let rows := (s.reviews.mergeSort fun a b => b.id ≤ a.id).drop offset.toNat
      s.whenOpen (.ok ((if limit ≤ 0 then rows else rows.take limit.toNat).map entryOf)) := by
  rw [list, h.review_ids.reverse_eq_mergeSort]

theorem numbered_waivers_performAll (ops : List Operation) :
    Numbered (·.id) (Store.empty.performAll ops).waivers := by
  have hempty : Numbered (·.id) Store.empty.waivers := .nil
  refine performAll_induction (P := fun s => Numbered (·.id) s.waivers) ?_ hempty
  intro op _ s s' hc h
  cases hc with
  | waiver row hid => exact h.append_row hid
  | revocation now id =>
    intro i row hrow
    rw [List.getElem?_map, Option.map_eq_some_iff] at hrow
    obtain ⟨old, hold, rfl⟩ := hrow
    rw [← h i old hold]
    split <;> rfl
  | nothing | review | flags | user | session | sessionEnd | note | closing | reopening => exact h

/-- Waivers are listed by falling ids. -/
theorem listWaivers_eq_mergeSort (ops : List Operation) (now : Instant) (activeOnly : Bool) :
    (Store.empty.performAll ops).listWaivers now activeOnly =
      let rows := (Store.empty.performAll ops).waivers.mergeSort fun a b => b.id ≤ a.id
      (Store.empty.performAll ops).whenOpen
        (.ok ((if activeOnly then rows.filter (·.isActive now) else rows).map (·.toWaiver))) := by
  simp only [listWaivers, ← (numbered_waivers_performAll ops).reverse_eq_mergeSort]
  cases activeOnly with
  | true => simp only [if_true, List.filter_reverse]
  | false => rfl

/-! ## Agreement of tables and readings -/

/-- What holds of the tables of a store and of what is read from them. -/
structure Consistent (s : Store) : Prop where
  review_id_pos : ∀ row ∈ s.reviews, 0 < row.id
  review_id_lt : s.reviews.Pairwise fun a b => a.id < b.id
  finding_id_pos : ∀ row ∈ s.findings, 0 < row.id
  finding_id_lt : s.findings.Pairwise fun a b => a.id < b.id
  /-- What is saved next gets ids above all others, the findings in their order. -/
  save_id_lt : ∀ now r s' saved, s.save now r = .ok (s', saved) →
    (∀ row ∈ s.reviews, row.id < saved.id) ∧
      (∀ row ∈ s.findings, ∀ f ∈ saved.findings, row.id < f.id) ∧
      saved.findings.Pairwise fun f g => f.id < g.id
  belongs : ∀ row ∈ s.findings, ∃ review ∈ s.reviews, review.id = row.review
  /-- The findings of a review have the places 0, 1, 2 and so on. -/
  places : ∀ review ∈ s.reviews, (s.findings.filter (·.review == review.id)).map (·.place) =
    List.range (s.findings.filter (·.review == review.id)).length
  /-- The stored counts are those of the findings that are listed. -/
  counts : s.isOpen = true → ∀ review ∈ s.reviews, ∃ issues,
    s.listFindings review.id = .ok issues ∧ review.counts = .tally (issues.getD [])
  /-- The summary counts the reviews and sums up the counts of their listed findings. -/
  summary : s.isOpen = true → s.summary =
    .ok { reviews := s.reviews.length
          counts := (s.reviews.map fun review => .tally (s.findingsOf review.id)).foldr (· + ·) {} }
  /-- Pages are cut out of the list of all reviews in which ids fall. -/
  list : s.isOpen = true → ∃ all : List ReviewEntry, all.Perm (s.reviews.map entryOf) ∧
    (all.Pairwise fun a b => b.id < a.id) ∧
    ∀ limit offset : Int, 0 ≤ offset → s.list limit offset =
      .ok (if 0 < limit then (all.drop offset.toNat).take limit.toNat else all.drop offset.toNat)
  has_iff_load : ∀ id, s.has id = .ok true ↔ ∃ r, s.load id = .ok r
  usernames_nodup : (s.users.map (·.username)).Nodup
  tokens_nodup : (s.sessions.map (·.token)).Nodup
  owned : ∀ row ∈ s.sessions, ∃ user ∈ s.users, user.id = row.user

theorem Holds.save_id_lt {s s' : Store} {log : List Saved} (h : s.Holds log) {now : Instant}
    {r saved : Review} (hsave : s.save now r = .ok (s', saved)) :
    (∀ row ∈ s.reviews, row.id < saved.id) ∧
      (∀ row ∈ s.findings, ∀ f ∈ saved.findings, row.id < f.id) ∧
      saved.findings.Pairwise fun f g => f.id < g.id := by
  obtain ⟨-, -, hresult⟩ := save_eq_ok_iff.mp hsave
  cases hresult
  have hids (i : Nat) (f : Finding) (hf : (s.nextFindings r)[i]? = some f) :
      f.id = nextId s.findings + i := by
    rw [nextFindings, getElem?_withIds, Option.map_eq_some_iff] at hf
    obtain ⟨g, -, rfl⟩ := hf
    rfl
  rw [findings_savedReview]
  refine ⟨fun row hrow => h.review_ids.lt_nextId hrow, ?_, ?_⟩
  · intro row hrow f hf
    obtain ⟨i, hi⟩ := List.getElem?_of_mem hf
    have hbelow := h.finding_ids.lt_nextId hrow
    have hid := hids i f hi
    omega
  · rw [List.pairwise_iff_getElem]
    intro i j hi hj hij
    have hi' := hids i _ (List.getElem?_eq_getElem hi)
    have hj' := hids j _ (List.getElem?_eq_getElem hj)
    omega

theorem Holds.list_eq {s : Store} {log : List Saved} (h : s.Holds log) (hopen : s.isOpen = true) :
    ∃ all : List ReviewEntry, all.Perm (s.reviews.map entryOf) ∧
      (all.Pairwise fun a b => b.id < a.id) ∧
      ∀ limit offset : Int, 0 ≤ offset → s.list limit offset =
        .ok (if 0 < limit then (all.drop offset.toNat).take limit.toNat
          else all.drop offset.toNat) := by
  refine ⟨s.reviews.reverse.map entryOf, s.reviews.reverse_perm.map _, ?_, ?_⟩
  · rw [List.pairwise_map, List.pairwise_reverse]
    exact h.review_ids.pairwise_lt
  · intro limit offset _
    rw [Store.list, whenOpen, if_pos hopen]
    by_cases hlimit : 0 < limit
    · rw [if_neg (Int.not_le.mpr hlimit), if_pos hlimit, List.map_take, List.map_drop]
    · rw [if_pos (Int.not_lt.mp hlimit), if_neg hlimit, List.map_drop]

theorem Holds.consistent {s : Store} {log : List Saved} (h : s.Holds log) (haccounts : s.Accounts) :
    s.Consistent where
  review_id_pos _ := h.review_ids.pos
  review_id_lt := h.review_ids.pairwise_lt
  finding_id_pos _ := h.finding_ids.pos
  finding_id_lt := h.finding_ids.pairwise_lt
  save_id_lt _ _ _ _ := h.save_id_lt
  belongs _ := h.belongs
  places _ := h.map_place_eq
  counts hopen review hreview := by
    refine ⟨_, if_pos hopen, ?_⟩
    rw [listFindings_eq_ok (if_pos hopen)]
    exact h.counts_eq_tally hreview
  summary hopen := by
    rw [Store.summary, whenOpen, if_pos hopen]
    congr 3
    exact List.map_congr_left fun review hreview => h.counts_eq_tally hreview
  list := h.list_eq
  has_iff_load id := by
    simp only [has_eq_true_iff, load_eq_ok_iff]
    constructor
    · rintro ⟨hopen, row, hrow⟩
      exact ⟨_, hopen, row, hrow, rfl⟩
    · rintro ⟨_, hopen, row, hrow, -⟩
      exact ⟨hopen, row, hrow⟩
  usernames_nodup := haccounts.usernames_nodup
  tokens_nodup := haccounts.tokens_nodup
  owned := haccounts.owned

/-- **Consistency of the store.** After any operations from the empty store, whatever their arguments
and whether they succeed or fail, its tables and readings agree. -/
theorem consistent_performAll (ops : List Operation) : (Store.empty.performAll ops).Consistent := by
  obtain ⟨log, hlog⟩ := Holds.empty.performAll ops
  exact hlog.consistent (performAll_induction (fun _ _ _ _ hc h => h.changes hc) Accounts.empty)

end JavaReview.Store
