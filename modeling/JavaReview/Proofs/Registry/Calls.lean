import JavaReview.Proofs.Engine.Interleaving
import JavaReview.Proofs.Registry.StoredFlags

/-!
Calls on a registry, one after the other. Registering a rule adds it at the end or, if its name is empty
or taken, changes nothing, and calls on flags leave the rules as they are. So after any calls the rules are
those whose registration succeeded (`Registry.names_afterAll`), and the flag of each is that of the last call
that names it, or the one it was registered with (`Registry.mem_entries_afterAll_iff`).
-/

namespace JavaReview.Registry

/-- A call on a registry. -/
inductive Call where
  | register (rule : Rule) (on : Bool)
  | flags (c : FlagCall)

/-- What a call returns: calls on flags return names, and only setting flags by name returns any. -/
inductive Answer where
  | registered
  | refused (e : RegisterError)
  | flagged (names : List String)
deriving DecidableEq

namespace FlagCall

/-- The flag that a call gives to a name. -/
def flag? (name : String) : FlagCall → Option Bool
  | setStates us => us.flag? name
  | apply s => (s.overrides.flag? name).or (if name ∈ s.disabled then some false else none)
  | disable names => if name ∈ names then some false else none

/-- The names that a call returns. -/
def returned (r : Registry) : FlagCall → List String
  | setStates us => r.applied us
  | apply _ => []
  | disable _ => []

end FlagCall

namespace Call

/-- The flag that a call gives to a name that is registered already. -/
def flag? (name : String) : Call → Option Bool
  | register _ _ => none
  | flags c => c.flag? name

/-- The flag of the last call that names a rule. -/
def lastFlag? (calls : List Call) (name : String) : Option Bool :=
  (calls.filterMap (·.flag? name)).getLast?

theorem lastFlag?_cons (c : Call) (calls : List Call) (name : String) :
    lastFlag? (c :: calls) name = (lastFlag? calls name).or (c.flag? name) := by
  unfold lastFlag?
  cases h : c.flag? name with
  | none => rw [List.filterMap_cons_none h, Option.or_none]
  | some on =>
    rw [List.filterMap_cons_some h, List.getLast?_cons]
    cases (calls.filterMap (·.flag? name)).getLast? <;> rfl

/-- The name that a call registered, by its answer. -/
def registeredName? : Call × Answer → Option String
  | (register rule _, .registered) => some rule.name
  | _ => none

end Call

/-! ## Runs -/

section Runs

variable {σ : Type} (perform : σ → Call → Answer × σ)

/-- Calls with their answers, one after the other. -/
def trace (s : σ) : List Call → List (Call × Answer)
  | [] => []
  | c :: calls => (c, (perform s c).1) :: trace (perform s c).2 calls

/-- The state after calls. -/
def afterCalls (s : σ) (calls : List Call) : σ := calls.foldl (fun s c => (perform s c).2) s

end Runs

/-- The answer to a call and the registry after it. -/
def perform (r : Registry) : Call → Answer × Registry
  | .register rule on =>
    match r.register rule on with
    | .ok r' => (.registered, r')
    | .error e => (.refused e, r)
  | .flags c => (.flagged (c.returned r), c.perform r)

/-- The registry after calls. -/
def afterAll (r : Registry) (calls : List Call) : Registry := afterCalls perform r calls

variable {r : Registry}

theorem register_cases (r : Registry) (rule : Rule) (on : Bool) :
    (rule.name = "" ∧ r.register rule on = .error .emptyName) ∨
    (rule.name ≠ "" ∧ rule.name ∈ r.names ∧
      r.register rule on = .error (.duplicate rule.name)) ∨
    (rule.name ≠ "" ∧ rule.name ∉ r.names ∧
      ∃ r', r.register rule on = .ok r' ∧ r'.entries = r.entries ++ [⟨rule, on⟩]) := by
  unfold register
  by_cases hempty : rule.name = ""
  · exact .inl ⟨hempty, dif_pos hempty⟩
  · by_cases hdup : rule.name ∈ r.names
    · refine .inr (.inl ⟨hempty, hdup, ?_⟩)
      rw [dif_neg hempty, dif_pos hdup]
    · refine .inr (.inr ⟨hempty, hdup, ?_⟩)
      rw [dif_neg hempty, dif_neg hdup]
      exact ⟨_, rfl, rfl⟩

/-- What registering a rule does: it is refused, and nothing changes, or it is added at the end. -/
theorem perform_register_cases (r : Registry) (rule : Rule) (on : Bool) :
    (rule.name = "" ∧ r.perform (.register rule on) = (.refused .emptyName, r)) ∨
    (rule.name ≠ "" ∧ rule.name ∈ r.names ∧
      r.perform (.register rule on) = (.refused (.duplicate rule.name), r)) ∨
    (rule.name ≠ "" ∧ rule.name ∉ r.names ∧
      ∃ r', r.perform (.register rule on) = (.registered, r') ∧
        r'.entries = r.entries ++ [⟨rule, on⟩]) := by
  rcases register_cases r rule on with ⟨hempty, h⟩ | ⟨hempty, hdup, h⟩ | ⟨hempty, hdup, r', h, hentries⟩
  · exact .inl ⟨hempty, by rw [perform, h]⟩
  · exact .inr (.inl ⟨hempty, hdup, by rw [perform, h]⟩)
  · exact .inr (.inr ⟨hempty, hdup, r', by rw [perform, h], hentries⟩)

/-- The entry with the flag that a call gives to it. -/
def settle (flag : String → Option Bool) (e : RuleEntry) : RuleEntry :=
  ⟨e.rule, (flag e.rule.name).getD e.enabled⟩

theorem updateEntry_eq_settle (us : RuleUpdates) : updateEntry us = settle us.flag? := by
  funext e
  rw [settle, ← updateEntry_enabled, ← updateEntry_rule us e]

theorem entries_setStates (r : Registry) (us : RuleUpdates) :
    (r.setStates us).entries = r.entries.map (settle us.flag?) := by
  rw [← updateEntry_eq_settle]
  rfl

theorem entries_apply (r : Registry) (s : Settings) :
    (r.apply s).entries = r.entries.map (settle ((FlagCall.apply s).flag? ·)) := by
  rw [apply, entries_setStates, entries_setStates, List.map_map]
  refine List.map_congr_left fun e _ => ?_
  simp only [Function.comp_apply, settle, FlagCall.flag?, RuleUpdates.flag?_all]
  cases s.overrides.flag? e.rule.name <;> simp

theorem entries_perform_flags (r : Registry) (c : FlagCall) :
    (c.perform r).entries = r.entries.map (settle (c.flag? ·)) := by
  cases c with
  | setStates us => exact entries_setStates r us
  | apply s => exact entries_apply r s
  | disable names => exact entries_apply r { disabled := names }

/-! ## One call -/

theorem names_perform (r : Registry) (c : Call) :
    (r.perform c).2.names = r.names ++ (Call.registeredName? (c, (r.perform c).1)).toList := by
  cases c with
  | register rule on =>
    rcases perform_register_cases r rule on with ⟨-, h⟩ | ⟨-, -, h⟩ | ⟨-, -, r', h, hentries⟩
    · rw [h]
      exact (List.append_nil _).symm
    · rw [h]
      exact (List.append_nil _).symm
    · rw [h, names, hentries, List.map_append]
      rfl
  | flags c =>
    rw [perform, names, entries_perform_flags, List.map_map]
    exact (List.append_nil _).symm

/-- An entry after a call is an earlier one with the flag that the call gives to it, or new. -/
theorem mem_entries_perform_iff {c : Call} {e : RuleEntry} : e ∈ (r.perform c).2.entries ↔
    (∃ e' ∈ r.entries, settle (c.flag? ·) e' = e) ∨
      c = .register e.rule e.enabled ∧ (r.perform c).1 = .registered := by
  cases c with
  | register rule on =>
    have hsettle : (∃ e' ∈ r.entries, settle ((Call.register rule on).flag? ·) e' = e) ↔
        e ∈ r.entries := exists_eq_right
    rw [hsettle]
    rcases perform_register_cases r rule on with ⟨-, h⟩ | ⟨-, -, h⟩ | ⟨-, -, r', h, hentries⟩
    · simp [h]
    · simp [h]
    · rw [h, hentries, List.mem_append, List.mem_singleton]
      cases e
      simp [eq_comm]
  | flags c =>
    rw [perform, entries_perform_flags, List.mem_map]
    simp [Call.flag?]

/-! ## All calls -/

theorem names_afterAll (r : Registry) (calls : List Call) :
    (r.afterAll calls).names = r.names ++ (trace perform r calls).filterMap Call.registeredName? := by
  induction calls generalizing r with
  | nil => exact (List.append_nil _).symm
  | cons c calls ih =>
    rw [afterAll, afterCalls, List.foldl_cons, ← afterCalls, ← afterAll, ih, names_perform, trace,
      List.append_assoc]
    congr 1
    cases h : Call.registeredName? (c, (r.perform c).1) <;> simp [h]

/-- A rule that one of the calls registered, with the flag of the last call after it that names the
rule. -/
def RegisteredBy (r : Registry) (calls : List Call) (e : RuleEntry) : Prop :=
  ∃ before on after, calls = before ++ .register e.rule on :: after ∧
    ((r.afterAll before).perform (.register e.rule on)).1 = .registered ∧
    e.enabled = (Call.lastFlag? after e.rule.name).getD on

theorem registeredBy_cons_iff {c : Call} {calls : List Call} {e : RuleEntry} :
    r.RegisteredBy (c :: calls) e ↔
      (∃ on, c = .register e.rule on ∧ (r.perform c).1 = .registered ∧
        e.enabled = (Call.lastFlag? calls e.rule.name).getD on) ∨
      (r.perform c).2.RegisteredBy calls e := by
  constructor
  · rintro ⟨before, on, after, hcalls, hanswer, hflag⟩
    cases before with
    | nil =>
      cases hcalls
      exact .inl ⟨on, rfl, hanswer, hflag⟩
    | cons c' before =>
      cases hcalls
      exact .inr ⟨before, on, after, rfl, hanswer, hflag⟩
  · rintro (⟨on, rfl, hanswer, hflag⟩ | ⟨before, on, after, rfl, hanswer, hflag⟩)
    · exact ⟨[], on, calls, rfl, hanswer, hflag⟩
    · exact ⟨c :: before, on, after, rfl, hanswer, hflag⟩

theorem settle_lastFlag?_cons (c : Call) (calls : List Call) (e : RuleEntry) :
    settle (Call.lastFlag? (c :: calls)) e = settle (Call.lastFlag? calls) (settle (c.flag? ·) e) := by
  simp only [settle, Call.lastFlag?_cons]
  cases Call.lastFlag? calls e.rule.name <;> simp

/-- The entries after calls: those of before, each with the flag of the last call that names it, and the
rules that were registered. -/
theorem mem_entries_afterAll_iff {calls : List Call} {e : RuleEntry} :
    e ∈ (r.afterAll calls).entries ↔
      (∃ e' ∈ r.entries, settle (Call.lastFlag? calls) e' = e) ∨ r.RegisteredBy calls e := by
  induction calls generalizing r with
  | nil =>
    have hnone : ¬ r.RegisteredBy [] e := by
      rintro ⟨before, on, after, hcalls, -⟩
      cases before <;> cases hcalls
    rw [or_iff_left hnone]
    exact exists_eq_right.symm
  | cons c calls ih =>
    rw [afterAll, afterCalls, List.foldl_cons, ← afterCalls, ← afterAll, ih, registeredBy_cons_iff,
      ← or_assoc]
    refine or_congr_left ?_
    simp only [mem_entries_perform_iff, settle_lastFlag?_cons]
    constructor
    · rintro ⟨e', ⟨e₀, he₀, rfl⟩ | ⟨hc, hanswer⟩, rfl⟩
      · exact .inl ⟨e₀, he₀, rfl⟩
      · exact .inr ⟨e'.enabled, hc, hanswer, rfl⟩
    · rintro (⟨e₀, he₀, rfl⟩ | ⟨on, rfl, hanswer, hflag⟩)
      · exact ⟨_, .inl ⟨e₀, he₀, rfl⟩, rfl⟩
      · refine ⟨⟨e.rule, on⟩, .inr ⟨rfl, hanswer⟩, ?_⟩
        rw [settle, ← hflag]

end JavaReview.Registry
