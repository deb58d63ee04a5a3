import JavaReview.Proofs.Registry.Calls
import Std.Data.HashMap

/-!
A registry with an index of its names. Rules stand in a list, and beside it a table says at which position
each name stands; registering consults the table and extends both, and calls on flags go through the
list. List and table stay in step with a registry that has no table (`Registry.Indexed.InStep`), and both give
the same answers, so what any calls lead to can be said of either (`Registry.followsCalls`).
-/

namespace JavaReview.Registry

/-- Rules in the order of registration, and the position of each name. -/
structure Indexed where
  rows : List RuleEntry
  index : Std.HashMap String Nat

namespace Indexed

/-- No rules. -/
def empty : Indexed := ⟨[], ∅⟩

/-- The entry of a name, by the index. -/
def get? (t : Indexed) (name : String) : Option RuleEntry := t.index[name]?.bind (t.rows[·]?)

/-- Adds a rule at the end, unless its name is empty or in the index. -/
def register (t : Indexed) (rule : Rule) (on : Bool) : Answer × Indexed :=
  if rule.name = "" then (.refused .emptyName, t)
  else if rule.name ∈ t.index then (.refused (.duplicate rule.name), t)
  else
    let rows := t.rows ++ [⟨rule, on⟩]
    (.registered, ⟨rows, t.index.insert rule.name (rows.length - 1)⟩)

/-- Sets the flags of the rows that updates name, one row after the other, and collects their names. -/
def setRows (us : RuleUpdates) : List RuleEntry → List String × List RuleEntry
  | [] => ([], [])
  | e :: rows =>
    let (names, rows) := setRows us rows
    match us.flag? e.rule.name with
    | none => (names, e :: rows)
    | some on => (e.rule.name :: names, { e with enabled := on } :: rows)

def setStates (t : Indexed) (us : RuleUpdates) : Indexed := { t with rows := (setRows us t.rows).2 }

/-- The answer to a call and the rules after it. -/
def perform (t : Indexed) : Call → Answer × Indexed
  | .register rule on => t.register rule on
  | .flags (.setStates us) => (.flagged (setRows us t.rows).1, t.setStates us)
  | .flags c => (.flagged [], c.updates.foldl setStates t)

end Indexed

/-! ## Positions -/

theorem index?_eq_some_iff {r : Registry} {name : String} {i : Nat} :
    r.index? name = some i ↔ r.names[i]? = some name := by
  rw [index?, List.findIdx?_eq_some_iff_getElem, List.getElem?_eq_some_iff]
  constructor
  · rintro ⟨hi, hname, -⟩
    refine ⟨by simpa [names] using hi, ?_⟩
    simpa [names] using hname
  · rintro ⟨hi, rfl⟩
    refine ⟨by simpa [names] using hi, by simp [names], fun j hj heq => ?_⟩
    have hlt : j < r.names.length := Nat.lt_trans hj hi
    have hsame : r.names[j] = r.names[i] := by simpa [names] using heq
    exact absurd (r.names_nodup.getElem_inj_iff.mp hsame) (Nat.ne_of_lt hj)

theorem isSome_index?_iff {r : Registry} {name : String} :
    (r.index? name).isSome = true ↔ name ∈ r.names := by
  rw [Option.isSome_iff_exists, List.mem_iff_getElem?]
  simp only [index?_eq_some_iff]

theorem get?_eq_bind_index? (r : Registry) (name : String) :
    r.get? name = (r.index? name).bind (r.entries[·]?) :=
  List.find?_eq_bind_findIdx?_getElem?

namespace Indexed

variable {t : Indexed} {r : Registry}

/-- The same rules with the same flags, and an index of the positions. -/
structure InStep (t : Indexed) (r : Registry) : Prop where
  rows_eq : t.rows = r.entries
  index_eq : ∀ name, t.index[name]? = r.index? name

theorem inStep_empty : empty.InStep Registry.empty where
  rows_eq := rfl
  index_eq _ := Std.HashMap.getElem?_empty

theorem setRows_eq (us : RuleUpdates) (rows : List RuleEntry) :
    setRows us rows = ((rows.map (·.rule.name)).filter fun n => (us.flag? n).isSome,
      rows.map (updateEntry us)) := by
  induction rows with
  | nil => rfl
  | cons e rows ih =>
    rw [setRows, ih, List.map_cons, List.map_cons, List.filter_cons, updateEntry]
    cases us.flag? e.rule.name <;> rfl

namespace InStep

theorem mem_index_iff (h : t.InStep r) {name : String} : name ∈ t.index ↔ name ∈ r.names := by
  rw [Std.HashMap.mem_iff_isSome_getElem?, h.index_eq, isSome_index?_iff]

theorem index?_congr {r r' : Registry} (h : r.names = r'.names) (name : String) :
    r.index? name = r'.index? name := by
  ext i
  rw [index?_eq_some_iff, index?_eq_some_iff, h]

theorem setStates (h : t.InStep r) (us : RuleUpdates) :
    (t.setStates us).InStep (r.setStates us) where
  rows_eq := by
    rw [Indexed.setStates, setRows_eq, h.rows_eq]
    rfl
  index_eq name := (h.index_eq name).trans (index?_congr (names_setStates r us).symm name)

theorem updates (h : t.InStep r) (us : List RuleUpdates) :
    (us.foldl Indexed.setStates t).InStep (us.foldl Registry.setStates r) := by
  induction us generalizing t r with
  | nil => exact h
  | cons u us ih => exact ih (h.setStates u)

theorem register (h : t.InStep r) (rule : Rule) (on : Bool) :
    (t.register rule on).1 = (r.perform (.register rule on)).1 ∧
      (t.register rule on).2.InStep (r.perform (.register rule on)).2 := by
  unfold Indexed.register
  rcases perform_register_cases r rule on with
    ⟨hempty, hr⟩ | ⟨hempty, hdup, hr⟩ | ⟨hempty, hdup, r', hr, hentries⟩
  · rw [if_pos hempty, hr]
    exact ⟨rfl, h⟩
  · rw [if_neg hempty, if_pos (h.mem_index_iff.mpr hdup), hr]
    exact ⟨rfl, h⟩
  · rw [if_neg hempty, if_neg (mt h.mem_index_iff.mp hdup), hr]
    refine ⟨rfl, ?_, fun name => ?_⟩
    · rw [h.rows_eq, hentries]
    · -- the new name stands after all others, and none of them is the same
      rw [Std.HashMap.getElem?_insert, h.index_eq, index?, index?, hentries, List.findIdx?_append,
        h.rows_eq]
      by_cases hname : rule.name = name
      · have hnone : r.entries.findIdx? (·.rule.name == name) = none := by
          rw [← index?, ← Option.not_isSome_iff_eq_none, isSome_index?_iff, ← hname]
          exact hdup
        simp [hname, hnone]
      · simp [hname]

theorem perform (h : t.InStep r) (c : Call) :
    (t.perform c).1 = (r.perform c).1 ∧ (t.perform c).2.InStep (r.perform c).2 := by
  cases c with
  | register rule on => exact h.register rule on
  | flags c =>
    have hupdates : (c.updates.foldl Indexed.setStates t).InStep (c.perform r) := by
      rw [← FlagCall.foldl_updates]
      exact h.updates c.updates
    cases c with
    | setStates us =>
      refine ⟨?_, h.setStates us⟩
      rw [Indexed.perform, setRows_eq, h.rows_eq]
      rfl
    | apply s => exact ⟨rfl, hupdates⟩
    | disable names => exact ⟨rfl, hupdates⟩

theorem run (h : t.InStep r) (calls : List Call) :
    trace Indexed.perform t calls = trace Registry.perform r calls ∧
      (afterCalls Indexed.perform t calls).InStep (r.afterAll calls) := by
  induction calls generalizing t r with
  | nil => exact ⟨rfl, h⟩
  | cons c calls ih =>
    obtain ⟨hanswer, hstep⟩ := h.perform c
    obtain ⟨htrace, hafter⟩ := ih hstep
    refine ⟨?_, hafter⟩
    rw [trace, trace, hanswer, htrace]

theorem get?_eq (h : t.InStep r) (name : String) : t.get? name = r.get? name := by
  rw [get?, h.index_eq, h.rows_eq, get?_eq_bind_index?]

end InStep

end Indexed

/-! ## What calls lead to -/

theorem enabledRules_eq_filter (r : Registry) :
    r.enabledRules = r.rules.filter fun rule => (rule.name, true) ∈ r.states := by
  rw [enabledRules, rules, List.filter_map]
  refine congrArg _ (List.filter_congr fun e he => ?_)
  rw [Bool.eq_iff_iff, Function.comp_apply, decide_eq_true_iff, states, List.mem_map]
  constructor
  · intro hon
    exact ⟨e, he, by rw [hon]⟩
  · rintro ⟨e', he', hstate⟩
    obtain ⟨hname, hon⟩ := Prod.mk.inj hstate
    rw [← eq_of_name_eq he' he hname]
    exact hon

theorem states_setStates (r : Registry) (us : RuleUpdates) :
    (r.setStates us).states = r.states.map fun s => (s.1, (us.flag? s.1).getD s.2) := by
  rw [states, entries_setStates, states, List.map_map, List.map_map]
  rfl

theorem mem_applied_iff {r : Registry} {us : RuleUpdates} {name : String} :
    name ∈ r.applied us ↔ name ∈ r.names ∧ name ∈ us.map (·.1) := by
  rw [applied, List.mem_filter, RuleUpdates.isSome_flag?_iff]

theorem refused_iff {r : Registry} {rule : Rule} {on : Bool} {e : RegisterError} :
    (r.perform (.register rule on)).1 = .refused e ↔
      rule.name = "" ∧ e = .emptyName ∨
        rule.name ≠ "" ∧ rule.name ∈ r.names ∧ e = .duplicate rule.name := by
  rcases perform_register_cases r rule on with ⟨hempty, h⟩ | ⟨hempty, hdup, h⟩ | ⟨hempty, hdup, r', h, -⟩
  · simp [h, hempty, eq_comm]
  · simp [h, hempty, hdup, eq_comm]
  · simp [h, hempty, hdup]

theorem Indexed.register_eq_of_refused {t : Indexed} {rule : Rule} {on : Bool} {e : RegisterError}
    (h : (t.register rule on).1 = .refused e) : (t.register rule on).2 = t := by
  unfold Indexed.register at h ⊢
  split
  · rfl
  · split
    · rfl
    · simp_all

/-- Rules that calls led to from none, kept with an index and without. -/
structure FollowsCalls (calls : List Call) (t : Indexed) (r : Registry) : Prop where
  answers_eq : trace Indexed.perform .empty calls = trace perform .empty calls
  rows_eq : t.rows = r.entries
  get?_eq : ∀ name, t.get? name = r.get? name
  index?_eq : ∀ name : String, t.index[name]? = r.index? name
  /-- The index has the registered names, each at its position, and no others. -/
  index_eq_some_iff : ∀ (name : String) (i : Nat), t.index[name]? = some i ↔ r.names[i]? = some name
  empty_not_mem : "" ∉ r.names
  names_nodup : r.names.Nodup
  refused_iff : ∀ rule on e, (r.perform (.register rule on)).1 = .refused e ↔
    rule.name = "" ∧ e = .emptyName ∨
      rule.name ≠ "" ∧ rule.name ∈ r.names ∧ e = .duplicate rule.name
  eq_of_refused : ∀ rule on e, (t.perform (.register rule on)).1 = .refused e →
    (t.perform (.register rule on)).2 = t ∧ (r.perform (.register rule on)).2 = r
  names_states : r.states.map (·.1) = (trace perform .empty calls).filterMap Call.registeredName?
  enabledRules_eq : r.enabledRules = r.rules.filter fun rule => (rule.name, true) ∈ r.states
  states_setStates : ∀ us, (r.setStates us).states =
    r.states.map fun s => (s.1, (us.flag? s.1).getD s.2)
  /-- Setting flags returns the names that were set, in the order of registration. -/
  returned : ∀ us, ∃ names, (r.perform (.flags (.setStates us))).1 = .flagged names ∧
    names.Sublist r.names ∧ ∀ name, name ∈ names ↔ name ∈ r.names ∧ name ∈ us.map (·.1)
  /-- The flag of a rule is that of the last call that names it since its registration, or else the one
  it was registered with. -/
  mem_entries_iff : ∀ e, e ∈ r.entries ↔ Registry.empty.RegisteredBy calls e

/-- **Registries follow their calls.** -/
theorem followsCalls (calls : List Call) :
    FollowsCalls calls (afterCalls Indexed.perform .empty calls) (Registry.empty.afterAll calls) := by
  obtain ⟨htrace, hstep⟩ := Indexed.inStep_empty.run calls
  generalize afterCalls Indexed.perform .empty calls = t at hstep ⊢
  refine
    { answers_eq := htrace
      rows_eq := hstep.rows_eq
      get?_eq := hstep.get?_eq
      index?_eq := hstep.index_eq
      index_eq_some_iff := ?_
      empty_not_mem := ?_
      names_nodup := (Registry.empty.afterAll calls).names_nodup
      refused_iff := fun _ _ _ => refused_iff
      eq_of_refused := ?_
      names_states := ?_
      enabledRules_eq := enabledRules_eq_filter _
      states_setStates := states_setStates _
      returned := ?_
      mem_entries_iff := ?_ }
  · intro name i
    rw [hstep.index_eq, index?_eq_some_iff]
  · intro hmem
    obtain ⟨e, he, hname⟩ := List.mem_map.mp hmem
    exact (Registry.empty.afterAll calls).name_ne_empty e he hname
  · intro rule on e hrefused
    refine ⟨Indexed.register_eq_of_refused hrefused, ?_⟩
    rw [(hstep.perform (.register rule on)).1] at hrefused
    rcases perform_register_cases (Registry.empty.afterAll calls) rule on with
      ⟨-, h⟩ | ⟨-, -, h⟩ | ⟨-, -, r', h, -⟩
    · rw [h]
    · rw [h]
    · rw [h] at hrefused
      cases hrefused
  · rw [states, List.map_map]
    exact names_afterAll Registry.empty calls
  · intro us
    exact ⟨_, rfl, List.filter_sublist, fun name => mem_applied_iff⟩
  · intro e
    rw [mem_entries_afterAll_iff]
    exact or_iff_right (by simp [Registry.empty])

end JavaReview.Registry
