import JavaReview.Proofs.Store.Tables
import JavaReview.Proofs.Waiver.Algebra

/-!
Reviews that are added to a store. A store suppresses a finding as long as one of its waivers is active
and matches it (`Store.Suppresses`), and `Store.Adds` says which reviews were added to a store and what
of their findings is stored. Saving reviews adds exactly them (`Store.Holds.adds_saves`).
-/

namespace JavaReview

/-! ## Suppressed findings -/

/-- A stored waiver that is active and matches a finding in a file. -/
structure WaiverRow.Suppresses (row : WaiverRow) (now : Instant) (filename : String) (f : Finding) :
    Prop where
  unrevoked : row.revokedAt = none
  unexpired : row.expiresAt.isAfter now = true
  rule : Waiver.sameName f.rule row.rule = true
  file : row.filename = "" ∨ Waiver.sameName filename row.filename = true
  text : row.pattern = "" ∨ Waiver.holds f.title row.pattern = true ∨
    Waiver.holds f.description row.pattern = true

theorem WaiverRow.suppresses_iff {row : WaiverRow} {now : Instant} {filename : String} {f : Finding} :
    row.Suppresses now filename f ↔
      row.isActive now = true ∧ row.toWaiver.covers filename f = true := by
  simp only [isActive, Waiver.covers, toWaiver, Bool.and_eq_true, Bool.or_eq_true, beq_iff_eq,
    Option.isNone_iff_eq_none, or_assoc, and_assoc]
  constructor
  · intro h
    exact ⟨h.unrevoked, h.unexpired, h.rule, h.file, h.text⟩
  · rintro ⟨hrevoked, hexpired, hrule, hfile, htext⟩
    exact ⟨hrevoked, hexpired, hrule, hfile, htext⟩

instance (row : WaiverRow) (now : Instant) (filename : String) (f : Finding) :
    Decidable (row.Suppresses now filename f) :=
  decidable_of_iff _ WaiverRow.suppresses_iff.symm

namespace Store

/-- A store one of whose waivers is active and matches a finding in a file. -/
def Suppresses (s : Store) (now : Instant) (filename : String) (f : Finding) : Prop :=
  ∃ row ∈ s.waivers, row.Suppresses now filename f

instance (s : Store) (now : Instant) (filename : String) (f : Finding) :
    Decidable (s.Suppresses now filename f) :=
  inferInstanceAs (Decidable (∃ row ∈ s.waivers, row.Suppresses now filename f))

/-- The findings of a review that no active waiver matches. -/
def unwaived (s : Store) (now : Instant) (r : Review) : List Finding :=
  r.findings.filter fun f => ¬ s.Suppresses now r.filename f

theorem anyCovers_iff {s : Store} {now : Instant} {ws : List Waiver}
    (hlist : s.listWaivers now true = .ok ws) {filename : String} {f : Finding} :
    Waiver.anyCovers ws filename f = true ↔ s.Suppresses now filename f := by
  obtain ⟨-, hws⟩ := whenOpen_eq_ok_iff.mp hlist
  cases hws
  simp only [Waiver.anyCovers, List.any_eq_true, List.mem_map, List.mem_reverse, List.mem_filter,
    if_true, Suppresses, WaiverRow.suppresses_iff]
  constructor
  · rintro ⟨_, ⟨row, ⟨hrow, hactive⟩, rfl⟩, hcovers⟩
    exact ⟨row, hrow, hactive, hcovers⟩
  · rintro ⟨row, hrow, hactive, hcovers⟩
    exact ⟨_, ⟨row, ⟨hrow, hactive⟩, rfl⟩, hcovers⟩

theorem listWaivers_of_open {s : Store} (h : s.isOpen = true) (now : Instant) :
    ∃ ws, s.listWaivers now true = .ok ws :=
  ⟨_, whenOpen_eq_ok_iff.mpr ⟨h, rfl⟩⟩

/-- The listed waivers leave the findings that are not suppressed. -/
theorem findings_applyWaivers {s : Store} {now : Instant} {ws : List Waiver}
    (hlist : s.listWaivers now true = .ok ws) (r : Review) :
    (r.applyWaivers ws).findings = s.unwaived now r := by
  rw [Review.findings_applyWaivers, Waiver.keep, unwaived]
  refine List.filter_congr fun f _ => ?_
  simp [← anyCovers_iff hlist]

/-! ## Added reviews -/

/-- Stores that differ by reviews at the end: each was made, and of its findings those that are left
are stored, in their order and counted. -/
structure Adds (made : Review → Prop) (left : Review → List Finding) (s s' : Store) : Prop where
  reviews_prefix : s.reviews <+: s'.reviews
  new_rows : ∀ row ∈ s'.reviews.drop s.reviews.length, ∃ r, made r ∧
    row.source = r.source ∧ row.filename = Review.filenameOr r.filename ∧
    (∃ first, s'.findingsOf row.id = withIds first (left r)) ∧
    row.counts = .tally (s'.findingsOf row.id)

/-- A review that is stored for one that was made. -/
def StoredFor (made : Review → Prop) (left : Review → List Finding) (stored : Review) : Prop :=
  ∃ r, made r ∧ stored.source = r.source ∧ stored.filename = r.filename ∧ stored.findings = left r

theorem storedFor_applyWaivers {made : Review → Prop} {s : Store} {now : Instant} {ws : List Waiver}
    (hlist : s.listWaivers now true = .ok ws) {r : Review} (hmade : made r) :
    StoredFor made (s.unwaived now) (r.applyWaivers ws) := by
  refine ⟨r, hmade, ?_, ?_, findings_applyWaivers hlist r⟩
  all_goals
    unfold Review.applyWaivers
    split <;> rfl

/-- What was saved for a review that was made. -/
def SavedFor (made : Review → Prop) (left : Review → List Finding) (x : Saved) : Prop :=
  ∃ r, made r ∧ x.row.source = r.source ∧ x.row.filename = Review.filenameOr r.filename ∧
    ∃ first, x.findings = withIds first (left r)

/-- A store that operations can lead to. -/
def Reachable (s : Store) : Prop := ∃ ops, s = Store.empty.performAll ops

theorem Reachable.exists_holds {s : Store} (h : s.Reachable) : ∃ log, s.Holds log := by
  obtain ⟨ops, rfl⟩ := h
  exact Holds.empty.performAll ops

/-! ## Operations that add nothing -/

/-- Whether an operation saves a review. -/
def Operation.isSave : Operation → Bool
  | save .. => true
  | _ => false

theorem Changes.reviews_eq {s s' : Store} {op : Operation} (h : Changes s op s')
    (hop : op.isSave = false) : s'.reviews = s.reviews := by
  cases h with
  | review => cases hop
  | nothing | flags | user | session | sessionEnd | waiver | revocation | note | closing
  | reopening => rfl

theorem reviews_performAll (s : Store) {ops : List Operation}
    (hops : ∀ op ∈ ops, op.isSave = false) : (s.performAll ops).reviews = s.reviews := by
  refine performAll_induction (P := fun t => t.reviews = s.reviews) ?_ rfl
  intro op hop t t' hc h
  exact (hc.reviews_eq (hops op hop)).trans h

theorem perform_save_of_closed {s : Store} (h : s.isOpen = false) (now : Instant) (r : Review) :
    s.perform (.save now r) = s := by
  unfold perform
  split
  next hrun =>
    obtain ⟨_, hsave, -⟩ := map_eq_ok_iff.mp hrun
    rw [(save_eq_ok_iff.mp hsave).1] at h
    cases h
  next => rfl

/-! ## Saving -/

section

variable {made : Review → Prop} {left : Review → List Finding} {s s' : Store} {log : List Saved}

theorem Adds.of_reviews_eq (h : s'.reviews = s.reviews) : Adds made left s s' where
  reviews_prefix := h ▸ List.prefix_rfl
  new_rows := by simp [h]

theorem Adds.congr {left' : Review → List Finding} (h : Adds made left s s')
    (hleft : ∀ r, made r → left r = left' r) : Adds made left' s s' where
  reviews_prefix := h.reviews_prefix
  new_rows := by
    intro row hrow
    obtain ⟨r, hmade, hsource, hfilename, hfindings, hcounts⟩ := h.new_rows row hrow
    rw [hleft r hmade] at hfindings
    exact ⟨r, hmade, hsource, hfilename, hfindings, hcounts⟩

/-- What is saved beyond a store is what was added to it. -/
theorem Holds.adds {more : List Saved} (h : s.Holds log) (h' : s'.Holds (log ++ more))
    (hmore : ∀ x ∈ more, SavedFor made left x) : Adds made left s s' := by
  have hreviews : s'.reviews = s.reviews ++ more.map (·.row) := by
    rw [h'.reviews_eq, List.map_append, h.reviews_eq]
  refine ⟨⟨_, hreviews.symm⟩, ?_⟩
  intro row hrow
  rw [hreviews, List.drop_left] at hrow
  obtain ⟨x, hx, rfl⟩ := List.mem_map.mp hrow
  have hlog : x ∈ log ++ more := List.mem_append_right _ hx
  obtain ⟨r, hmade, hsource, hfilename, hfindings⟩ := hmore x hx
  rw [← h'.findingsOf_eq hlog] at hfindings
  exact ⟨r, hmade, hsource, hfilename, hfindings, h'.counts_eq_tally (h'.row_mem hlog)⟩

theorem Holds.save (h : s.Holds log) (now : Instant) {r : Review} (hr : StoredFor made left r) :
    ∃ more, (s.perform (.save now r)).Holds (log ++ more) ∧ ∀ x ∈ more, SavedFor made left x := by
  have hchanges := changes_perform s (.save now r)
  generalize s.perform (.save now r) = s' at hchanges
  cases hchanges with
  | nothing => exact ⟨[], by rwa [List.append_nil], by simp⟩
  | review =>
    refine ⟨_, h.withReview now r, fun x hx => ?_⟩
    obtain ⟨made, hmade, hsource, hfilename, hfindings⟩ := hr
    rw [List.mem_singleton.mp hx]
    refine ⟨made, hmade, hsource, ?_, nextId s.findings, ?_⟩
    · rw [← hfilename]
      rfl
    · rw [← hfindings]
      rfl

theorem Holds.saves (h : s.Holds log) (now : Instant) {rs : List Review}
    (hrs : ∀ r ∈ rs, StoredFor made left r) :
    ∃ more, (s.performAll (rs.map (.save now))).Holds (log ++ more) ∧
      ∀ x ∈ more, SavedFor made left x := by
  induction rs generalizing s log with
  | nil => exact ⟨[], by rwa [List.append_nil], by simp⟩
  | cons r rs ih =>
    obtain ⟨first, hfirst, hfirstFor⟩ := h.save now (hrs r List.mem_cons_self)
    obtain ⟨rest, hrest, hrestFor⟩ := ih hfirst fun r' hr' => hrs r' (List.mem_cons_of_mem _ hr')
    rw [List.append_assoc] at hrest
    exact ⟨first ++ rest, hrest, List.forall_mem_append.mpr ⟨hfirstFor, hrestFor⟩⟩

/-- Saving reviews adds them and nothing else. -/
theorem Holds.adds_saves (h : s.Holds log) (now : Instant) {rs : List Review}
    (hrs : ∀ r ∈ rs, StoredFor made left r) :
    Adds made left s (s.performAll (rs.map (.save now))) := by
  obtain ⟨more, hmore, hfor⟩ := h.saves now hrs
  exact h.adds hmore hfor

end

end Store

end JavaReview
