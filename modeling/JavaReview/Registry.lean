import JavaReview.Json.Write
import JavaReview.Rule.Builtin

/-!
The registry: rules in the order of registration, each with a flag that tells whether it is on. Names
are not empty and no two rules share one; after registration only the flags change.
-/

namespace JavaReview

/-- A registered rule and its flag. -/
structure RuleEntry where
  rule : Rule
  enabled : Bool

/-- Rules in the order of registration. -/
structure Registry where
  entries : List RuleEntry
  name_ne_empty : ∀ e ∈ entries, e.rule.name ≠ ""
  names_nodup : (entries.map (·.rule.name)).Nodup

/-- Why a rule was not registered. -/
inductive RegisterError where
  | emptyName
  | duplicate (name : String)
deriving DecidableEq, Repr

namespace RegisterError

/-- The text of a refusal. -/
def message : RegisterError → String
  | emptyName => "rule name is empty"
  | duplicate name => "duplicate rule name: " ++ quoted name

end RegisterError

/-- Flags by rule name; of several for one name the last counts. -/
abbrev RuleUpdates := List (String × Bool)

namespace RuleUpdates

/-- The flag of a name. -/
def flag? (us : RuleUpdates) (name : String) : Option Bool := us.reverse.lookup name

/-- One flag for every name. -/
def all (on : Bool) (names : List String) : RuleUpdates := names.map (·, on)

end RuleUpdates

namespace Registry

/-- The registry without rules. -/
def empty : Registry := ⟨[], by simp, by simp⟩

/-- The registered rules. -/
def rules (r : Registry) : List Rule := r.entries.map (·.rule)

/-- The names of the registered rules. -/
def names (r : Registry) : List String := r.entries.map (·.rule.name)

/-- The number of registered rules. -/
def size (r : Registry) : Nat := r.entries.length

/-- The rules that are on. -/
def enabledRules (r : Registry) : List Rule := (r.entries.filter (·.enabled)).map (·.rule)

/-- The flags of all rules. -/
def states (r : Registry) : List (String × Bool) := r.entries.map fun e => (e.rule.name, e.enabled)

/-- The entry of a name. -/
def get? (r : Registry) (name : String) : Option RuleEntry :=
  r.entries.find? (·.rule.name == name)

/-- The position of a name. -/
def index? (r : Registry) (name : String) : Option Nat :=
  r.entries.findIdx? (·.rule.name == name)

/-- The registry with one more rule at its end. -/
def register (r : Registry) (rule : Rule) (enabled : Bool) : Except RegisterError Registry :=
  if hempty : rule.name = "" then .error .emptyName
  else if hdup : rule.name ∈ r.names then .error (.duplicate rule.name)
  else .ok
    { entries := r.entries ++ [⟨rule, enabled⟩]
      name_ne_empty := by
        intro e he
        rcases List.mem_append.mp he with he | he
        · exact r.name_ne_empty e he
        · rw [List.mem_singleton.mp he]
          exact hempty
      names_nodup := by
        rw [List.map_append, List.nodup_append]
        refine ⟨r.names_nodup, by simp, ?_⟩
        rintro n hn m hm rfl
        rw [List.map_singleton, List.mem_singleton] at hm
        exact hdup (hm ▸ hn) }

/-- Registers rules until one is refused: the registry then, how many were registered, and the
refusal. -/
def registerAll (r : Registry) : List RuleEntry → Registry × Nat × Option RegisterError
  | [] => (r, 0, none)
  | e :: es =>
    match r.register e.rule e.enabled with
    | .error err => (r, 0, some err)
    | .ok r' =>
      let (r'', n, err) := registerAll r' es
      (r'', n + 1, err)

/-- The registry of the built-in rules, all on. -/
def default : Registry where
  entries := Rule.builtins.map (⟨·, true⟩)
  name_ne_empty := by decide
  names_nodup := by decide

/-- An entry with the flag that updates give to it. -/
def updateEntry (us : RuleUpdates) (e : RuleEntry) : RuleEntry :=
  match us.flag? e.rule.name with
  | none => e
  | some on => { e with enabled := on }

@[simp] theorem updateEntry_rule (us : RuleUpdates) (e : RuleEntry) :
    (updateEntry us e).rule = e.rule := by
  unfold updateEntry
  split <;> rfl

/-- The registry with updated flags. Names that are not registered are ignored. -/
def setStates (r : Registry) (us : RuleUpdates) : Registry where
  entries := r.entries.map (updateEntry us)
  name_ne_empty := by
    intro e he
    obtain ⟨e', he', rfl⟩ := List.mem_map.mp he
    rw [updateEntry_rule]
    exact r.name_ne_empty e' he'
  names_nodup := by
    simpa [Function.comp_def] using r.names_nodup

/-- The registered names that updates name, in the order of registration. -/
def applied (r : Registry) (us : RuleUpdates) : List String :=
  r.names.filter fun n => (us.flag? n).isSome

/-- The flags of updates that are taken over, in the order of registration. -/
def accepted (r : Registry) (us : RuleUpdates) : List (String × Bool) :=
  (r.applied us).map fun name => (name, (us.flag? name).getD false)

/-- Flags set when a program starts: rules switched off by name, and then single flags. -/
structure Settings where
  disabled : List String := []
  overrides : RuleUpdates := []

/-- The registry under settings. -/
def apply (r : Registry) (s : Settings) : Registry :=
  (r.setStates (.all false s.disabled)).setStates s.overrides

/-- The registry with some rules switched off. -/
def disable (r : Registry) (names : List String) : Registry := r.apply { disabled := names }

/-- The flags as an object, in the order of registration. -/
def statesJson (states : List (String × Bool)) : Json :=
  .obj (states.map fun s => (s.1, .bool s.2))

end Registry

end JavaReview
