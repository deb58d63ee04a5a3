import JavaReview.Proofs.Registry.StoredFlags
import JavaReview.Proofs.Server.Steps

/-!
Restarts. A server and tools that work on the same registry and store change flags by separate ways, and
starting the program anew puts the flags together from the settings and the table. As long as flags can
be stored, the registry of a running server is the one that the program would start with at that point
(`Server.ofStore_reopen_afterAll`).
-/

namespace JavaReview

open Http (Request)

namespace Store

/-! ## Flags and opening under operations -/

theorem Changes.ruleStates_eq {s s' : Store} {op : Operation} (h : Changes s op s')
    (hop : ∀ flags, op ≠ .saveStates flags) : s'.ruleStates = s.ruleStates := by
  cases h with
  | flags flags => exact absurd rfl (hop flags)
  | nothing | review | user | session | sessionEnd | waiver | revocation | note | closing
  | reopening => rfl

/-- What is stored of flags that can be stored, whatever is noted before and after. -/
theorem ruleStates_performAll_saveStates {s : Store} {flags : List (String × Bool)}
    (before after : List Operation) (hbefore : ∀ op ∈ before, op.isAccess = true)
    (hafter : ∀ op ∈ after, op.isAccess = true) (hsave : ∃ s', s.saveStates flags = .ok s') :
    (s.performAll (before ++ .saveStates flags :: after)).ruleStates =
      putStates s.ruleStates flags := by
  have hsame := s.sameContent_access hbefore
  obtain ⟨s', hsave⟩ := hsave
  have hready := (saveStates_eq_ok_iff.mp hsave).1
  rw [← hsame.isOpen_eq, ← hsame.isWritable_eq] at hready
  have hsaved : (s.performAll before).perform (.saveStates flags) = _ :=
    perform_of_run (saveStates_eq_ok_iff.mpr ⟨hready, rfl⟩)
  rw [performAll_append, performAll_cons, hsaved, (sameContent_access _ hafter).ruleStates_eq,
    hsame.ruleStates_eq]

/-- Whether an operation closes or reopens the store. -/
def Operation.isOpening : Operation → Bool
  | close | reopen .. => true
  | _ => false

theorem Operation.isOpening_of_isAccess {op : Operation} (h : op.isAccess = true) :
    op.isOpening = false := by
  cases op <;> first | rfl | cases h

theorem Changes.opening_eq {s s' : Store} {op : Operation} (h : Changes s op s')
    (hop : op.isOpening = false) : s'.isOpen = s.isOpen ∧ s'.isWritable = s.isWritable := by
  cases h with
  | closing | reopening => cases hop
  | nothing | review | flags | user | session | sessionEnd | waiver | revocation | note =>
    exact ⟨rfl, rfl⟩

theorem opening_performAll (s : Store) {ops : List Operation}
    (hops : ∀ op ∈ ops, op.isOpening = false) :
    (s.performAll ops).isOpen = s.isOpen ∧ (s.performAll ops).isWritable = s.isWritable := by
  refine performAll_induction (P := fun t => t.isOpen = s.isOpen ∧ t.isWritable = s.isWritable) ?_
    ⟨rfl, rfl⟩
  intro op hop t t' hc h
  have hstep := hc.opening_eq (hops op hop)
  exact ⟨hstep.1.trans h.1, hstep.2.trans h.2⟩

end Store

namespace Server

open Store (Operation)

/-! ## Requests and calls one after the other -/

/-- What is sent to a server: a request, or a call of a tool on its registry and store. -/
inductive Call where
  | request (m : Moment) (req : Request)
  | tool (now : Instant) (tool : Tool) (args : Toolbox.Arguments)

/-- The tools on the registry and store of a server. -/
def toolbox (s : Server) : Toolbox where
  registry := s.registry
  analyzer := s.analyzer.getD {}
  store := some s.store
  maxSourceBytes := s.maxSourceBytes

/-- The server with what tools left of its registry and store. -/
def withToolbox (s : Server) (t : Toolbox) : Server :=
  { s with registry := t.registry, store := t.store.getD s.store }

/-- The server after a request or a call. -/
def after (s : Server) : Call → Server
  | .request m req => (handle m req s).2
  | .tool now tool args => s.withToolbox (s.toolbox.call now tool args).2

/-- The server after requests and calls, one after the other. -/
def afterAll (s : Server) (calls : List Call) : Server := calls.foldl after s

/-- A request or call that changes flags, with the updates it brings. -/
inductive Asks (s : Server) : Call → RuleUpdates → Prop
  | request {m : Moment} {req : Request} {us : RuleUpdates} : Reaches req .updateRules →
      s.FromAdmin m.now req → readUpdates (.whole req.body) = .ok us → Asks s (.request m req) us
  | tool {now : Instant} {args : Toolbox.Arguments} {us : RuleUpdates} :
      Toolbox.readUpdates (Toolbox.textArgument args "updates") = .ok us →
      Asks s (.tool now .setRules args) us

/-- The flags that a request or call changes can be stored. -/
def Saves (s : Server) (c : Call) : Prop :=
  ∀ us, s.Asks c us → ∃ store, s.store.saveStates (s.registry.accepted us) = .ok store

/-- The flags that requests and calls change can be stored every time. -/
def SavesAll (s : Server) : List Call → Prop
  | [] => True
  | c :: cs => s.Saves c ∧ (s.after c).SavesAll cs

/-- What a request or call can make of the flags of the registry and the table. -/
inductive FlagStep (s s' : Server) : Prop
  | same : s'.registry = s.registry → s'.store.ruleStates = s.store.ruleStates → FlagStep s s'
  | update (us : RuleUpdates) : s'.registry = s.registry.setStates us →
      s'.store.ruleStates = Store.putStates s.store.ruleStates (s.registry.accepted us) →
      FlagStep s s'

theorem flagStep_after {s : Server} {c : Call} (hsaves : s.Saves c) : FlagStep s (s.after c) := by
  cases c with
  | request m req =>
    rw [after]
    have hstep := handle_step m req s
    generalize (handle m req s).2 = s' at hstep
    cases hstep with
    | access ops hops => exact .same rfl (s.store.sameContent_access hops).ruleStates_eq
    | allowance => exact .same rfl rfl
    | waivers ops hadmin hops => exact .same rfl (s.store.sameContent_performAll hops).ruleStates_eq
    | rules us before after hreach hadmin hread hbefore hafter =>
      exact .update us rfl (Store.ruleStates_performAll_saveStates before after hbefore hafter
        (hsaves us (.request hreach hadmin hread)))
    | review source filename r allowance hsubmits hreview =>
      exact .same rfl ((Store.changes_perform _ _).ruleStates_eq (by simp))
  | tool now tool args =>
    rw [after]
    have hstep := Toolbox.call_step now args tool (rfl : s.toolbox.store = some s.store)
    generalize (s.toolbox.call now tool args).2 = t at hstep
    cases hstep with
    | nothing => exact .same rfl rfl
    | review r => exact .same rfl ((Store.changes_perform s.store _).ruleStates_eq (by simp))
    | rules us htool hread =>
      subst htool
      exact .update us rfl (Store.ruleStates_performAll_saveStates [] [] (by simp) (by simp)
        (hsaves us (.tool hread)))

theorem opening_after (s : Server) (c : Call) :
    (s.after c).store.isOpen = s.store.isOpen ∧
      (s.after c).store.isWritable = s.store.isWritable := by
  cases c with
  | request m req =>
    rw [after]
    have hstep := handle_step m req s
    generalize (handle m req s).2 = s' at hstep
    cases hstep with
    | access ops hops =>
      have hsame := s.store.sameContent_access hops
      exact ⟨hsame.isOpen_eq, hsame.isWritable_eq⟩
    | allowance => exact ⟨rfl, rfl⟩
    | waivers ops hadmin hops =>
      have hsame := s.store.sameContent_performAll hops
      exact ⟨hsame.isOpen_eq, hsame.isWritable_eq⟩
    | rules us before after hreach hadmin hread hbefore hafter =>
      refine Store.opening_performAll _ fun op hop => ?_
      rcases Operation.isAccess_or_eq hbefore hafter hop with hop | rfl
      · exact Operation.isOpening_of_isAccess hop
      · rfl
    | review => exact (Store.changes_perform s.store _).opening_eq rfl
  | tool now tool args =>
    rw [after]
    have hstep := Toolbox.call_step now args tool (rfl : s.toolbox.store = some s.store)
    generalize (s.toolbox.call now tool args).2 = t at hstep
    cases hstep with
    | nothing => exact ⟨rfl, rfl⟩
    | review => exact (Store.changes_perform s.store _).opening_eq rfl
    | rules => exact (Store.changes_perform s.store _).opening_eq rfl

/-- A store that is open for writing stores all flags. -/
theorem savesAll_of_writable {s : Server} (hopen : s.store.isOpen = true)
    (hwritable : s.store.isWritable = true) (calls : List Call) : s.SavesAll calls := by
  induction calls generalizing s with
  | nil => trivial
  | cons c calls ih =>
    obtain ⟨hopen', hwritable'⟩ := s.opening_after c
    refine ⟨?_, ih (hopen'.trans hopen) (hwritable'.trans hwritable)⟩
    intro us _
    exact ⟨_, Store.saveStates_eq_ok_iff.mpr ⟨.inr ⟨hopen, hwritable⟩, rfl⟩⟩

/-! ## The registry of a running server -/

/-- A server whose registry is the one that starts on its table, where every name was there at first or
is registered. -/
structure InStep (base : Registry) (disabled known : List String) (s : Server) : Prop where
  registry_eq : s.registry = base.apply { disabled, overrides := s.store.ruleStates }
  keys_nodup : (s.store.ruleStates.map (·.1)).Nodup
  names_known : ∀ n ∈ s.store.ruleStates.map (·.1), n ∈ known ∨ n ∈ base.names

namespace InStep

variable {base : Registry} {disabled known : List String} {s s' : Server}

theorem flagStep (h : InStep base disabled known s) (hstep : FlagStep s s') :
    InStep base disabled known s' := by
  cases hstep with
  | same hregistry hstates =>
    refine ⟨?_, ?_, ?_⟩
    · rw [hregistry, hstates]
      exact h.registry_eq
    · rw [hstates]
      exact h.keys_nodup
    · rw [hstates]
      exact h.names_known
  | update us hregistry hstates =>
    have haccepted : s.registry.accepted us = base.accepted us := by
      refine Registry.accepted_congr ?_ us
      rw [h.registry_eq, Registry.names_apply]
    rw [haccepted] at hstates
    refine ⟨?_, ?_, ?_⟩
    · rw [hregistry, hstates, h.registry_eq]
      exact Registry.setStates_apply base disabled h.keys_nodup us
    · rw [hstates]
      exact Store.nodup_putStates h.keys_nodup _
    · rw [hstates]
      intro n hn
      rcases Store.mem_names_putStates hn with hn | hn
      · exact .inr (Registry.mem_names_accepted hn)
      · exact h.names_known n hn

theorem afterAll (h : InStep base disabled known s) {calls : List Call} (hsaves : s.SavesAll calls) :
    InStep base disabled known (s.afterAll calls) := by
  induction calls generalizing s with
  | nil => exact h
  | cons c calls ih => exact ih (h.flagStep (flagStep_after hsaves.1)) hsaves.2

end InStep

/-- **A restart changes no flag**, whatever requests and calls came before it: a server that was started
on a table with one flag for each name keeps the registry that it would be started with. No name that is
not registered enters the table. -/
theorem ofStore_reopen_afterAll (tree : FileTree) (a : Config.Analysis) (s : Server)
    (calls : List Call) (hstart : Registry.ofStore tree a s.store = .ok s.registry)
    (hkeys : (s.store.ruleStates.map (·.1)).Nodup) (hsaves : s.SavesAll calls) :
    (∀ isWritable locksFirst,
      Registry.ofStore tree a ((s.afterAll calls).store.reopen isWritable locksFirst) =
        .ok (s.afterAll calls).registry) ∧
    ∀ n ∈ (s.afterAll calls).store.ruleStates.map (·.1),
      n ∈ s.store.ruleStates.map (·.1) ∨ n ∈ s.registry.names := by
  obtain ⟨base, hbase, -, hregistry⟩ := Registry.ofStore_eq_ok_iff.mp hstart
  have hinit : InStep base (a.disabledRules.getD []) (s.store.ruleStates.map (·.1)) s :=
    ⟨hregistry.symm, hkeys, fun n hn => .inl hn⟩
  have hfinal := hinit.afterAll hsaves
  constructor
  · intro isWritable locksFirst
    exact Registry.ofStore_eq_ok_iff.mpr ⟨base, hbase, rfl, hfinal.registry_eq.symm⟩
  · rw [← hregistry, Registry.names_apply]
    exact hfinal.names_known

/-- Settings that switch two rules off. -/
def flagSettings : Config.Analysis := { disabledRules := some ["long-line", "todo-comment"] }

/-- A server that was started under these settings on a table that switches one of the rules on again
and names a rule that is gone; an administrator has a session. -/
def flagServer : Server where
  store := {
    ruleStates := [("retired-rule", true), ("long-line", true)]
    users := [⟨1, "ada", .foreign "", "admin", .ofInstant (.ofParts 0 0)⟩]
    sessions := [⟨"t", 1, .ofInstant (.ofParts 2000000000 0)⟩] }
  registry := Registry.default.apply {
    disabled := ["long-line", "todo-comment"]
    overrides := [("retired-rule", true), ("long-line", true)] }

/-- A request that names a rule twice and one that is not registered, and a call that switches another
rule on. -/
def flagCalls : List Call := [
  .request ⟨.ofParts 1700000000 0, "", ""⟩ {
    method := "PUT"
    target := .ofText "/api/v1/rules"
    headers := [("Cookie", "jreview_session=t")]
    body := "\x7b\"long-line\":true,\"no-rule\":true,\"long-line\":false\x7d" },
  .tool (.ofParts 1700000000 0) .setRules [("updates", .str "\x7b\"todo-comment\":true\x7d")]]

theorem ofStore_reopen_afterAll_flagCalls :
    (flagServer.afterAll flagCalls).store.ruleStates =
        [("retired-rule", true), ("long-line", false), ("todo-comment", true)] ∧
      (∀ isWritable locksFirst,
        Registry.ofStore .empty flagSettings
            ((flagServer.afterAll flagCalls).store.reopen isWritable locksFirst) =
          .ok (flagServer.afterAll flagCalls).registry) ∧
      ∀ n ∈ (flagServer.afterAll flagCalls).store.ruleStates.map (·.1),
        n ∈ flagServer.store.ruleStates.map (·.1) ∨ n ∈ flagServer.registry.names :=
  ⟨by decide +kernel, ofStore_reopen_afterAll .empty flagSettings flagServer flagCalls rfl
    (by decide) (savesAll_of_writable rfl rfl flagCalls)⟩

end Server

end JavaReview
