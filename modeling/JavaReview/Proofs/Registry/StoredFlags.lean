import JavaReview.Proofs.Registry.Flags
import JavaReview.Proofs.Store.Operations
import JavaReview.Startup

/-!
Stored flags against the flags of a registry. Putting flags into the table lets them count before those
that were there (`Store.flag?_putStates`), so updating a registry that was started on a table gives the
registry that is started on the table with the accepted updates put in (`Registry.setStates_apply`).
-/

namespace JavaReview

namespace RuleUpdates

theorem flag?_cons (e : String × Bool) (us : RuleUpdates) (name : String) :
    flag? (e :: us) name = (flag? us name).or (if name = e.1 then some e.2 else none) := by
  rw [flag?, List.reverse_cons, List.lookup_append, flag?, List.lookup_cons, List.lookup_nil]
  by_cases h : name = e.1
  · simp [h]
  · simp [h, beq_eq_false_iff_ne.mpr h]

theorem flag?_eq_none {us : RuleUpdates} {name : String} (h : name ∉ us.map (·.1)) :
    us.flag? name = none := by
  induction us with
  | nil => rfl
  | cons e us ih =>
    rw [List.map_cons, List.mem_cons, not_or] at h
    rw [flag?_cons, ih h.2, if_neg h.1, Option.or_none]

theorem isSome_flag?_iff {us : RuleUpdates} {name : String} :
    (us.flag? name).isSome = true ↔ name ∈ us.map (·.1) := by
  induction us with
  | nil => simp [flag?]
  | cons e us ih =>
    rw [flag?_cons, Option.isSome_or, Bool.or_eq_true, ih, List.map_cons, List.mem_cons, or_comm]
    by_cases h : name = e.1 <;> simp [h]

end RuleUpdates

/-! ## Flags put into a table -/

namespace Store

theorem mem_names_putState (name n : String) (on : Bool) (known : List (String × Bool)) :
    n ∈ (putState name on known).map (·.1) ↔ n = name ∨ n ∈ known.map (·.1) := by
  induction known with
  | nil => simp [putState]
  | cons e known ih =>
    by_cases h : e.1 = name
    · simp [putState, h]
    · rw [putState, if_neg h, List.map_cons, List.mem_cons, ih, List.map_cons, List.mem_cons]
      exact or_left_comm

theorem nodup_putState {known : List (String × Bool)} (hknown : (known.map (·.1)).Nodup)
    (name : String) (on : Bool) : ((putState name on known).map (·.1)).Nodup := by
  induction known with
  | nil => simp [putState]
  | cons e known ih =>
    rw [List.map_cons, List.nodup_cons] at hknown
    by_cases h : e.1 = name
    · rw [putState, if_pos h, List.map_cons, List.nodup_cons, ← h]
      exact hknown
    · rw [putState, if_neg h, List.map_cons, List.nodup_cons, mem_names_putState, not_or]
      exact ⟨⟨h, hknown.1⟩, ih hknown.2⟩

theorem flag?_putState {known : RuleUpdates} (hknown : (known.map (·.1)).Nodup)
    (name n : String) (on : Bool) :
    RuleUpdates.flag? (putState name on known) n =
      if n = name then some on else known.flag? n := by
  induction known with
  | nil =>
    rw [putState, RuleUpdates.flag?_cons]
    rfl
  | cons e known ih =>
    rw [List.map_cons, List.nodup_cons] at hknown
    by_cases h : e.1 = name
    · rw [putState, if_pos h, RuleUpdates.flag?_cons, RuleUpdates.flag?_cons]
      by_cases hn : n = name
      · -- The name does not stand further down, where its flag would count more.
        rw [RuleUpdates.flag?_eq_none (by rw [hn, ← h]; exact hknown.1)]
        simp [hn]
      · simp [hn, h]
    · rw [putState, if_neg h, RuleUpdates.flag?_cons, ih hknown.2, RuleUpdates.flag?_cons]
      by_cases hn : n = name
      · simp [hn]
      · simp [hn]

/-- The flags with others put in, one after the other. -/
def putStates (known flags : List (String × Bool)) : List (String × Bool) :=
  flags.foldl (fun known e => putState e.1 e.2 known) known

theorem mem_names_putStates {n : String} {known flags : List (String × Bool)}
    (h : n ∈ (putStates known flags).map (·.1)) :
    n ∈ flags.map (·.1) ∨ n ∈ known.map (·.1) := by
  induction flags generalizing known with
  | nil => exact .inr h
  | cons e flags ih =>
    rw [List.map_cons, List.mem_cons, or_assoc, or_left_comm]
    rcases ih h with h | h
    · exact .inl h
    · exact .inr ((mem_names_putState e.1 n e.2 known).mp h)

theorem nodup_putStates {known : List (String × Bool)} (hknown : (known.map (·.1)).Nodup)
    (flags : List (String × Bool)) : ((putStates known flags).map (·.1)).Nodup := by
  induction flags generalizing known with
  | nil => exact hknown
  | cons e flags ih => exact ih (nodup_putState hknown e.1 e.2)

/-- The last flag that is put in counts, and what was there counts for the other names. -/
theorem flag?_putStates {known : RuleUpdates} (hknown : (known.map (·.1)).Nodup)
    (flags : RuleUpdates) (n : String) :
    RuleUpdates.flag? (putStates known flags) n = (flags.flag? n).or (known.flag? n) := by
  induction flags generalizing known with
  | nil => rfl
  | cons e flags ih =>
    rw [putStates, List.foldl_cons, ← putStates, ih (nodup_putState hknown e.1 e.2),
      flag?_putState hknown, RuleUpdates.flag?_cons, Option.or_assoc]
    congr 1
    by_cases hn : n = e.1
    · simp [hn]
    · simp [hn]

theorem saveStates_eq_ok_iff {s s' : Store} {flags : List (String × Bool)} :
    s.saveStates flags = .ok s' ↔ (flags = [] ∨ s.isOpen = true ∧ s.isWritable = true) ∧
      { s with ruleStates := putStates s.ruleStates flags } = s' := by
  cases flags with
  | nil => simp [saveStates, putStates]
  | cons e flags =>
    simp only [saveStates, whenWritable_eq_ok_iff, List.isEmpty_cons, Bool.false_eq_true, if_false,
      reduceCtorEq, false_or, Except.ok.injEq, and_assoc, putStates]

end Store

/-! ## Registries started on a table -/

namespace Registry

@[simp] theorem names_setStates (r : Registry) (us : RuleUpdates) :
    (r.setStates us).names = r.names := by
  simp [names, setStates]

@[simp] theorem names_apply (r : Registry) (settings : Settings) :
    (r.apply settings).names = r.names := by
  simp [apply]

theorem accepted_congr {r r' : Registry} (h : r.names = r'.names) (us : RuleUpdates) :
    r.accepted us = r'.accepted us := by
  simp only [accepted, applied, h]

theorem mem_names_accepted {r : Registry} {us : RuleUpdates} {n : String}
    (h : n ∈ (r.accepted us).map (·.1)) : n ∈ r.names := by
  simp only [accepted, applied, List.map_map, Function.comp_def, List.map_id'] at h
  exact List.mem_of_mem_filter h

theorem flag?_accepted {r : Registry} {n : String} (hn : n ∈ r.names) (us : RuleUpdates) :
    RuleUpdates.flag? (r.accepted us) n = us.flag? n := by
  rw [RuleUpdates.flag?, accepted, applied, ← List.map_reverse,
    lookup_map_self fun name => (us.flag? name).getD false]
  cases hflag : us.flag? n <;> simp [hn, hflag]

/-- Two updates of an entry are one if that gives the entry's name the later of their flags. -/
theorem updateEntry_updateEntry {us us' both : RuleUpdates} {e : RuleEntry}
    (h : both.flag? e.rule.name = (us'.flag? e.rule.name).or (us.flag? e.rule.name)) :
    updateEntry us' (updateEntry us e) = updateEntry both e := by
  unfold updateEntry
  rw [h]
  cases us.flag? e.rule.name <;> cases us'.flag? e.rule.name <;> simp

/-- Updating a registry that was started on a table is starting it on the table with the accepted
updates put in. -/
theorem setStates_apply (base : Registry) (disabled : List String) {known : RuleUpdates}
    (hknown : (known.map (·.1)).Nodup) (us : RuleUpdates) :
    (base.apply { disabled, overrides := known }).setStates us =
      base.apply { disabled, overrides := Store.putStates known (base.accepted us) } := by
  apply ext_entries
  simp only [apply, setStates, List.map_map]
  refine List.map_congr_left fun e he => ?_
  have hname : e.rule.name ∈ base.names := List.mem_map_of_mem he
  refine updateEntry_updateEntry ?_
  rw [updateEntry_rule, Store.flag?_putStates hknown, flag?_accepted hname]

theorem ofStore_eq_ok_iff {tree : FileTree} {a : Config.Analysis} {store : Store} {r : Registry} :
    ofStore tree a store = .ok r ↔ ∃ base, default.withPacks tree (a.rulePacks.getD []) = .ok base ∧
      store.isOpen = true ∧
      base.apply { disabled := a.disabledRules.getD [], overrides := store.ruleStates } = r := by
  simp only [ofStore, bind_eq_ok_iff, mapError_eq_ok_iff, Store.states, Store.whenOpen_eq_ok_iff]
  constructor
  · rintro ⟨base, hbase, stored, ⟨hopen, hstored⟩, happly⟩
    cases hstored
    exact ⟨base, hbase, hopen, Except.ok.inj happly⟩
  · rintro ⟨base, hbase, hopen, rfl⟩
    exact ⟨base, hbase, _, ⟨hopen, rfl⟩, rfl⟩

end Registry

end JavaReview
