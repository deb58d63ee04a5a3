import JavaReview.Proofs.Server.Restart

/-!
Updates of rules that overlap. An update changes the registry and then the table, each at once but not
both together, so the steps of several updates can mix. When all of them are done, the registry shows
the flags of the table, and a restart keeps them, exactly if for each rule the update that was set last
and the update that was stored last give the same flag (`Server.showsTable_iff`, `Server.restarts_iff`).
Updates that are stored in the order in which they were set are safe (`Server.showsTable_of_in_order`);
two updates that cross need not be (`Server.not_showsTable_crossed`).
-/

namespace JavaReview

namespace RuleUpdates

theorem flag?_append (us vs : RuleUpdates) (name : String) :
    flag? (us ++ vs) name = (vs.flag? name).or (us.flag? name) := by
  rw [flag?, List.reverse_append, List.lookup_append]
  rfl

/-- Updates in another order name the same rules. -/
theorem isSome_flag?_of_perm {l l' : List RuleUpdates} (h : l.Perm l') (name : String) :
    (flag? l.flatten name).isSome = (flag? l'.flatten name).isSome := by
  rw [Bool.eq_iff_iff, isSome_flag?_iff, isSome_flag?_iff]
  exact (h.flatten.map _).mem_iff

end RuleUpdates

namespace Registry

theorem updateEntry_congr {us vs : RuleUpdates} {e : RuleEntry}
    (h : us.flag? e.rule.name = vs.flag? e.rule.name) : updateEntry us e = updateEntry vs e := by
  rw [updateEntry, h, updateEntry]

theorem setStates_append (r : Registry) (us vs : RuleUpdates) :
    r.setStates (us ++ vs) = (r.setStates us).setStates vs := by
  apply ext_entries
  simp only [setStates, List.map_map]
  refine List.map_congr_left fun e _ => (updateEntry_updateEntry ?_).symm
  exact RuleUpdates.flag?_append us vs e.rule.name

/-- What is taken over of several updates gives a registered name the flag that they give it. -/
theorem flag?_flatMap_accepted {r : Registry} {n : String} (hn : n ∈ r.names) (l : List RuleUpdates) :
    RuleUpdates.flag? (l.flatMap r.accepted) n = RuleUpdates.flag? l.flatten n := by
  induction l with
  | nil => rfl
  | cons us l ih =>
    rw [List.flatMap_cons, List.flatten_cons, RuleUpdates.flag?_append, RuleUpdates.flag?_append, ih,
      flag?_accepted hn]

section Overrides

variable {base : Registry} {disabled : List String} {us vs : RuleUpdates}

/-- A registry shows flags that name the rules of its overrides exactly if they are the overrides. -/
theorem apply_shows_iff (hnames : ∀ n ∈ base.names, (us.flag? n).isSome = (vs.flag? n).isSome) :
    (∀ e ∈ (base.apply { disabled, overrides := us }).entries, ∀ on,
      vs.flag? e.rule.name = some on → e.enabled = on) ↔
    ∀ n ∈ base.names, us.flag? n = vs.flag? n := by
  simp only [apply, setStates, List.map_map, names, List.forall_mem_map, Function.comp_apply,
    updateEntry_rule] at hnames ⊢
  refine forall₂_congr fun e he => ?_
  have hname := hnames e he
  rw [updateEntry, updateEntry_rule]
  cases hus : us.flag? e.rule.name <;> cases hvs : vs.flag? e.rule.name <;> simp_all

/-- Overrides that name the same rules give the same registry exactly if they are the same. -/
theorem apply_eq_apply_iff (hnames : ∀ n ∈ base.names, (us.flag? n).isSome = (vs.flag? n).isSome) :
    base.apply { disabled, overrides := vs } = base.apply { disabled, overrides := us } ↔
      ∀ n ∈ base.names, us.flag? n = vs.flag? n := by
  constructor
  · intro heq
    have hshows : ∀ e ∈ (base.apply { disabled, overrides := vs }).entries, ∀ on,
        vs.flag? e.rule.name = some on → e.enabled = on :=
      (apply_shows_iff fun _ _ => rfl).mpr fun _ _ => rfl
    rw [heq] at hshows
    exact (apply_shows_iff hnames).mp hshows
  · intro hflags
    apply ext_entries
    simp only [apply, setStates, List.map_map]
    refine List.map_congr_left fun e he => updateEntry_congr ?_
    rw [updateEntry_rule]
    exact (hflags _ (List.mem_map_of_mem he)).symm

end Overrides

end Registry

namespace Server

/-! ## Steps of updates -/

/-- A step of an update: its flags are set in the registry, or those that were taken over are stored. -/
inductive UpdateStep where
  | set (us : RuleUpdates)
  | store (us : RuleUpdates)
deriving DecidableEq, Repr

/-- The server after a step. -/
def afterStep (s : Server) : UpdateStep → Server
  | .set us => s.setRules us
  | .store us => s.storeRules (s.registry.accepted us)

/-- The server after steps, one after the other. -/
def afterSteps (s : Server) (steps : List UpdateStep) : Server := steps.foldl afterStep s

/-- The updates that were set, in this order. -/
def setUpdates (steps : List UpdateStep) : List RuleUpdates :=
  steps.filterMap fun
    | .set us => some us
    | .store _ => none

/-- The updates that were stored, in this order. -/
def storedUpdates (steps : List UpdateStep) : List RuleUpdates :=
  steps.filterMap fun
    | .set _ => none
    | .store us => some us

/-- Steps that take each update of a list to its end, in any order: it is set, and later it is stored. -/
structure Interleaves (updates : List RuleUpdates) (steps : List UpdateStep) : Prop where
  set_perm : (setUpdates steps).Perm updates
  stored_perm : (storedUpdates steps).Perm updates
  set_first : ∀ n ≤ steps.length, ∀ us ∈ updates,
    (storedUpdates (steps.take n)).count us ≤ (setUpdates (steps.take n)).count us

/-- An update by a tool is a step of each kind. -/
theorem after_tool_setRules {s : Server} {now : Instant} {args : Toolbox.Arguments} {us : RuleUpdates}
    (hread : Toolbox.readUpdates (Toolbox.textArgument args "updates") = .ok us) :
    s.after (.tool now .setRules args) = s.afterSteps [.set us, .store us] := by
  have haccepted : (s.registry.setStates us).accepted us = s.registry.accepted us :=
    Registry.accepted_congr (Registry.names_setStates _ _) us
  simp only [after, Toolbox.call, Toolbox.run, Toolbox.setRules, hread, Toolbox.withStates,
    Toolbox.storeStates, toolbox, afterSteps, List.foldl_cons, List.foldl_nil, afterStep, setRules,
    storeRules, haccepted]
  cases s.store.saveStates (s.registry.accepted us) <;> rfl

/-- An update on request is a step of each kind too, between two notes. -/
theorem updateRules_of_admin {m : Moment} {req : Http.Request} {s : Server} {u : User}
    {us : RuleUpdates} (huser : s.userOf? m.now req = some u) (hadmin : u.isAdmin = true)
    (hread : readUpdates (.whole req.body) = .ok us) : ∃ detail,
      (updateRules m req s).2 =
        ((s.note m u.username "rules:update" req.target.path
          (.obj [("method", .str req.method)])).afterSteps [.set us, .store us]).note
            m u.username "rules:update" "" detail := by
  refine ⟨.obj [("applied", .arr ((s.registry.applied us).map .str))], ?_⟩
  have hnoted : ∀ detail,
      (s.note m u.username "rules:update" req.target.path detail).registry = s.registry := by
    intro detail
    rw [note_eq]
    rfl
  simp only [updateRules, withAdmin, withUser, noteUser, huser, hadmin, if_true, hread, afterSteps,
    List.foldl_cons, List.foldl_nil, afterStep, changeRules, hnoted]
  congr 2
  exact Registry.accepted_congr (by simp [setRules, hnoted]) us

/-! ## After all steps -/

theorem registry_afterSteps (s : Server) (steps : List UpdateStep) :
    (s.afterSteps steps).registry = s.registry.setStates (setUpdates steps).flatten := by
  induction steps generalizing s with
  | nil => exact (Registry.setStates_nil _).symm
  | cons step steps ih =>
    rw [afterSteps, List.foldl_cons, ← afterSteps, ih]
    cases step with
    | set us =>
      rw [afterStep, setRules, ← Registry.setStates_append]
      rfl
    | store us =>
      rw [afterStep, storeRules_eq]
      rfl

theorem ruleStates_afterSteps {s : Server} (hopen : s.store.isOpen = true)
    (hwritable : s.store.isWritable = true) (steps : List UpdateStep) :
    (s.afterSteps steps).store.ruleStates =
      Store.putStates s.store.ruleStates ((storedUpdates steps).flatMap s.registry.accepted) := by
  induction steps generalizing s with
  | nil => rfl
  | cons step steps ih =>
    rw [afterSteps, List.foldl_cons, ← afterSteps]
    cases step with
    | set us =>
      have haccepted : (s.registry.setStates us).accepted = s.registry.accepted :=
        funext (Registry.accepted_congr (Registry.names_setStates _ _))
      rw [afterStep, ih (s := s.setRules us) hopen hwritable]
      simp only [setRules, haccepted]
      rfl
    | store us =>
      have hsave : s.store.saveStates (s.registry.accepted us) = .ok _ :=
        Store.saveStates_eq_ok_iff.mpr ⟨.inr ⟨hopen, hwritable⟩, rfl⟩
      have hstep : s.afterStep (.store us) = { s with store := { s.store with
          ruleStates := Store.putStates s.store.ruleStates (s.registry.accepted us) } } := by
        rw [afterStep, storeRules, hsave]
      rw [ih (s := s.afterStep (.store us)) (by rw [hstep]; exact hopen)
        (by rw [hstep]; exact hwritable), hstep]
      exact List.foldl_append.symm

/-- The registry has the flag that the table holds for a rule. -/
def ShowsTable (s : Server) : Prop :=
  ∀ e ∈ s.registry.entries, ∀ on,
    RuleUpdates.flag? s.store.ruleStates e.rule.name = some on → e.enabled = on

/-- For each rule, the last update that was set and the last that was stored give the same flag. -/
def EndsAlike (r : Registry) (steps : List UpdateStep) : Prop :=
  ∀ n ∈ r.names, RuleUpdates.flag? (setUpdates steps).flatten n =
    RuleUpdates.flag? (storedUpdates steps).flatten n

instance (r : Registry) (steps : List UpdateStep) : Decidable (EndsAlike r steps) :=
  inferInstanceAs (Decidable (∀ n ∈ r.names, _))

theorem or_eq_or_iff {x y z : Option Bool} (h : x.isSome = y.isSome) : x.or z = y.or z ↔ x = y := by
  cases x <;> cases y <;> simp_all

section Overlap

variable {tree : FileTree} {a : Config.Analysis} {s : Server} {updates : List RuleUpdates}
  {steps : List UpdateStep} (hstart : Registry.ofStore tree a s.store = .ok s.registry)
  (hkeys : (s.store.ruleStates.map (·.1)).Nodup) (hwritable : s.store.isWritable = true)
  (hsteps : Interleaves updates steps)

include hstart hkeys hwritable hsteps

/-- After all steps the registry is one that starts on flags for the rules of the table, and these are
the flags of the table exactly if the steps end alike. -/
theorem exists_overrides : ∃ base us,
    Registry.default.withPacks tree (a.rulePacks.getD []) = .ok base ∧
    (s.afterSteps steps).registry =
      base.apply { disabled := a.disabledRules.getD [], overrides := us } ∧
    (∀ n ∈ base.names, (us.flag? n).isSome =
      (RuleUpdates.flag? (s.afterSteps steps).store.ruleStates n).isSome) ∧
    ((∀ n ∈ base.names, us.flag? n =
      RuleUpdates.flag? (s.afterSteps steps).store.ruleStates n) ↔ EndsAlike s.registry steps) := by
  obtain ⟨base, hbase, hopen, hregistry⟩ := Registry.ofStore_eq_ok_iff.mp hstart
  have hnames : s.registry.names = base.names := by rw [← hregistry, Registry.names_apply]
  have hperm := hsteps.set_perm.trans hsteps.stored_perm.symm
  have hset (n : String) (hn : n ∈ base.names) :
      RuleUpdates.flag? (Store.putStates s.store.ruleStates
        (base.accepted (setUpdates steps).flatten)) n =
      (RuleUpdates.flag? (setUpdates steps).flatten n).or
        (RuleUpdates.flag? s.store.ruleStates n) := by
    rw [Store.flag?_putStates hkeys, Registry.flag?_accepted hn]
  have hstored (n : String) (hn : n ∈ base.names) :
      RuleUpdates.flag? (s.afterSteps steps).store.ruleStates n =
      (RuleUpdates.flag? (storedUpdates steps).flatten n).or
        (RuleUpdates.flag? s.store.ruleStates n) := by
    rw [ruleStates_afterSteps hopen hwritable, Store.flag?_putStates hkeys,
      Registry.flag?_flatMap_accepted (hnames ▸ hn)]
  refine ⟨base, Store.putStates s.store.ruleStates (base.accepted (setUpdates steps).flatten), hbase,
    ?_, fun n hn => ?_, ?_⟩
  · rw [registry_afterSteps, ← hregistry]
    exact Registry.setStates_apply base _ hkeys _
  · rw [hset n hn, hstored n hn, Option.isSome_or, Option.isSome_or,
      RuleUpdates.isSome_flag?_of_perm hperm]
  · rw [EndsAlike, hnames]
    refine forall₂_congr fun n hn => ?_
    rw [hset n hn, hstored n hn]
    exact or_eq_or_iff (RuleUpdates.isSome_flag?_of_perm hperm n)

/-- **Overlapping updates.** When all are done, the registry shows the flags of the table exactly if the
steps end alike. -/
theorem showsTable_iff : (s.afterSteps steps).ShowsTable ↔ EndsAlike s.registry steps := by
  obtain ⟨base, us, -, hregistry, hnames, hiff⟩ := exists_overrides hstart hkeys hwritable hsteps
  rw [← hiff, ShowsTable, hregistry]
  exact Registry.apply_shows_iff hnames

/-- When all are done, a restart keeps the registry exactly if the steps end alike. -/
theorem restarts_iff (isWritable locksFirst : Bool) :
    Registry.ofStore tree a ((s.afterSteps steps).store.reopen isWritable locksFirst) =
      .ok (s.afterSteps steps).registry ↔ EndsAlike s.registry steps := by
  obtain ⟨base, us, hbase, hregistry, hnames, hiff⟩ := exists_overrides hstart hkeys hwritable hsteps
  rw [← hiff, ← Registry.apply_eq_apply_iff hnames, hregistry, Registry.ofStore_eq_ok_iff]
  constructor
  · rintro ⟨base', hbase', -, heq⟩
    cases hbase.symm.trans hbase'
    exact heq
  · intro heq
    exact ⟨base, hbase, rfl, heq⟩

/-- Updates that are stored in the order in which they were set leave the flags of the table. -/
theorem showsTable_of_in_order (horder : storedUpdates steps = setUpdates steps) :
    (s.afterSteps steps).ShowsTable := by
  refine (showsTable_iff hstart hkeys hwritable hsteps).mpr fun n _ => ?_
  rw [horder]

end Overlap

/-- Two updates of a rule, of which the first to be set is the last to be stored. -/
def crossed : List UpdateStep := [
  .set [("long-line", true)], .set [("long-line", false)],
  .store [("long-line", false)], .store [("long-line", true)]]

/-- The registry has the rule off and the table has it on. -/
theorem not_showsTable_crossed :
    Interleaves [[("long-line", true)], [("long-line", false)]] crossed ∧
      ¬ (({} : Server).afterSteps crossed).ShowsTable := by
  have hsteps : Interleaves [[("long-line", true)], [("long-line", false)]] crossed :=
    ⟨by decide, by decide, by decide⟩
  have hstart : Registry.ofStore .empty {} ({} : Server).store = .ok ({} : Server).registry := rfl
  have hends : ¬ EndsAlike ({} : Server).registry crossed := by decide +kernel
  exact ⟨hsteps, fun h => hends ((showsTable_iff hstart (by decide) rfl hsteps).mp h)⟩

end Server

end JavaReview
