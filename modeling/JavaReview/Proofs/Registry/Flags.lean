import JavaReview.Registry
import Mathlib.Data.List.Nodup

/-!
Flags of a registry under updates. An update changes the flag of each entry that it names and nothing
else (`Registry.updateEntry_enabled`), so switching rules off leaves the other rules that were on, in
their order (`Registry.enabledRules_setStates_off`), and switching back on those of them that were on
gives the registry of before (`Registry.setStates_restore`).
-/

namespace JavaReview

/-- A list that pairs each name with its value is looked up by applying the function. -/
theorem lookup_map_self (f : String → Bool) (names : List String) (name : String) :
    (names.map fun n => (n, f n)).lookup name = if name ∈ names then some (f name) else none := by
  induction names with
  | nil => rfl
  | cons n names ih =>
    rw [List.map_cons, List.lookup_cons, ih]
    by_cases h : name = n
    · simp [h]
    · simp [h, beq_eq_false_iff_ne.mpr h]

theorem RuleUpdates.flag?_all (on : Bool) (names : List String) (name : String) :
    (RuleUpdates.all on names).flag? name = if name ∈ names then some on else none := by
  rw [flag?, all, ← List.map_reverse, lookup_map_self fun _ => on]
  simp only [List.mem_reverse]

namespace Registry

/-- A registry is its entries. -/
theorem ext_entries {r r' : Registry} (h : r.entries = r'.entries) : r = r' := by
  cases r
  cases r'
  cases h
  rfl

theorem setStates_nil (r : Registry) : r.setStates [] = r := by
  apply ext_entries
  exact List.map_id r.entries

theorem updateEntry_enabled (us : RuleUpdates) (e : RuleEntry) :
    (updateEntry us e).enabled = (us.flag? e.rule.name).getD e.enabled := by
  unfold updateEntry
  split <;> simp [*]

/-- Entries of one name are one entry. -/
theorem eq_of_name_eq {r : Registry} {e e' : RuleEntry} (he : e ∈ r.entries) (he' : e' ∈ r.entries)
    (h : e.rule.name = e'.rule.name) : e = e' :=
  List.inj_on_of_nodup_map r.names_nodup he he' h

/-- The names of the rules that are on. -/
def enabledNames (r : Registry) : List String := r.enabledRules.map (·.name)

theorem mem_enabledNames_iff {r : Registry} {e : RuleEntry} (he : e ∈ r.entries) :
    e.rule.name ∈ r.enabledNames ↔ e.enabled = true := by
  simp only [enabledNames, enabledRules, List.mem_map, List.mem_filter]
  constructor
  · rintro ⟨_, ⟨e', ⟨he', hon⟩, rfl⟩, hname⟩
    rw [← eq_of_name_eq he' he hname]
    exact hon
  · intro hon
    exact ⟨e.rule, ⟨e, ⟨he, hon⟩, rfl⟩, rfl⟩

theorem enabledRules_setStates_off (r : Registry) (names : List String) :
    (r.setStates (.all false names)).enabledRules =
      r.enabledRules.filter fun rule => rule.name ∉ names := by
  simp only [enabledRules, setStates]
  induction r.entries with
  | nil => rfl
  | cons e es ih =>
    by_cases h : e.rule.name ∈ names
    · have hoff : (updateEntry (.all false names) e).enabled = false := by
        simp [updateEntry_enabled, RuleUpdates.flag?_all, h]
      cases hon : e.enabled <;> simp [hoff, hon, h, ih]
    · have hsame : (updateEntry (.all false names) e).enabled = e.enabled := by
        simp [updateEntry_enabled, RuleUpdates.flag?_all, h]
      cases hon : e.enabled <;> simp [hsame, hon, h, ih]

/-- Rules that were switched off are switched back on by naming those of them that were on. -/
theorem setStates_restore (r : Registry) (names : List String) :
    (r.setStates (.all false names)).setStates
      (.all true (names.filter fun n => n ∈ r.enabledNames)) = r := by
  apply ext_entries
  simp only [setStates, List.map_map]
  conv_rhs => rw [← List.map_id r.entries]
  refine List.map_congr_left fun e he => ?_
  have hflag := mem_enabledNames_iff he
  cases e with
  | mk rule enabled =>
    simp only at hflag
    by_cases h : rule.name ∈ names <;> cases enabled <;>
      simp_all [updateEntry, RuleUpdates.flag?_all]

end Registry

end JavaReview
