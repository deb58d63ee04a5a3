import JavaReview.Proofs.Engine.Progress
import JavaReview.Proofs.Registry.Flags

/-!
A run of the engine while others change the flags of its registry. A call that changes flags makes one
update or two, each of them at once, and what happens is a list of events in any order: the run takes a
step, or some call makes its next update. The run reads the flags in its first step and never again, so
it comes out as an analysis in one go would with the flags that the updates before that step left
(`Engine.runsOnSnapshot`). These need not be the flags after some of the calls: a run can begin when
settings are half applied (`Engine.halfApplied_unlike_calls`).
-/

namespace JavaReview

namespace Registry

/-- A call that changes flags. -/
inductive FlagCall where
  | setStates (us : RuleUpdates)
  | apply (s : Settings)
  | disable (names : List String)

/-- The updates by which settings are applied, each of them made at once. -/
def Settings.updates (s : Settings) : List RuleUpdates :=
  (if s.disabled.isEmpty then [] else [.all false s.disabled]) ++
    if s.overrides.isEmpty then [] else [s.overrides]

namespace FlagCall

/-- The registry after a call. -/
def perform (r : Registry) : FlagCall → Registry
  | setStates us => r.setStates us
  | apply s => r.apply s
  | disable names => r.disable names

/-- The updates that a call consists of. -/
def updates : FlagCall → List RuleUpdates
  | setStates us => [us]
  | apply s => s.updates
  | disable names => Settings.updates { disabled := names }

theorem foldl_updates_apply (r : Registry) (s : Settings) :
    s.updates.foldl Registry.setStates r = r.apply s := by
  unfold Settings.updates Registry.apply
  have hdisabled : (if s.disabled.isEmpty then [] else [RuleUpdates.all false s.disabled]).foldl
      Registry.setStates r = r.setStates (.all false s.disabled) := by
    cases hs : s.disabled with
    | nil => exact (setStates_nil r).symm
    | cons => rfl
  rw [List.foldl_append, hdisabled]
  cases hs : s.overrides with
  | nil => exact (setStates_nil _).symm
  | cons => rfl

theorem foldl_updates (r : Registry) (c : FlagCall) :
    c.updates.foldl Registry.setStates r = c.perform r := by
  cases c with
  | setStates us => rfl
  | apply s => exact foldl_updates_apply r s
  | disable names => exact foldl_updates_apply r _

end FlagCall

theorem size_setStates (r : Registry) (us : RuleUpdates) : (r.setStates us).size = r.size := by
  simp [setStates, size]

theorem length_enabledRules_le (r : Registry) : r.enabledRules.length ≤ r.size := by
  rw [enabledRules, List.length_map]
  exact List.length_filter_le _ _

end Registry

open Registry (FlagCall)

namespace Engine

/-! ## Updates and calls -/

/-- The engine after updates of its registry, one after the other. -/
def afterUpdates (e : Engine) (us : List RuleUpdates) : Engine :=
  e.withRegistry (us.foldl Registry.setStates e.registry)

/-- The engine after calls, one after the other. -/
def afterCalls (e : Engine) (calls : List FlagCall) : Engine :=
  e.withRegistry (calls.foldl FlagCall.perform e.registry)

theorem afterUpdates_append (e : Engine) (us us' : List RuleUpdates) :
    e.afterUpdates (us ++ us') = (e.afterUpdates us).afterUpdates us' := by
  rw [afterUpdates, List.foldl_append]
  rfl

/-- Calls that are made one after the other leave what their updates leave. -/
theorem afterUpdates_flatMap (e : Engine) (calls : List FlagCall) :
    e.afterUpdates (calls.flatMap FlagCall.updates) = e.afterCalls calls := by
  induction calls generalizing e with
  | nil => rfl
  | cons c calls ih =>
    rw [List.flatMap_cons, afterUpdates_append, ih, afterUpdates, FlagCall.foldl_updates]
    rfl

theorem size_afterUpdates (e : Engine) (us : List RuleUpdates) :
    (e.afterUpdates us).registry.size = e.registry.size := by
  induction us generalizing e with
  | nil => rfl
  | cons u us ih => exact (ih (e.afterUpdates [u])).trans (Registry.size_setStates _ u)

/-! ## Events -/

/-- What can happen next while a run goes on: a call makes its next update, or the run takes a step. -/
inductive Event where
  | update (call : Nat)
  | step
deriving DecidableEq, Repr

/-- The updates that each call has still to make, by its number. -/
abbrev Pending := Nat → List RuleUpdates

namespace Pending

/-- Calls that have made no update yet. -/
def ofCalls (calls : List FlagCall) : Pending := fun i => (calls[i]?).elim [] FlagCall.updates

/-- What is left when a call has made its next update. -/
def advance (pending : Pending) (call : Nat) : Pending :=
  Function.update pending call (pending call).tail

end Pending

namespace Event

/-- Whether the event is a step of the run. -/
def isStep : Event → Bool
  | update _ => false
  | step => true

@[simp] theorem isStep_update (call : Nat) : (update call).isStep = false := rfl

@[simp] theorem isStep_step : step.isStep = true := rfl

/-- The events before the first step of the run. -/
def beforeRun (events : List Event) : List Event := events.takeWhile (!·.isStep)

/-- The updates that events make, in this order, each with the call that makes it. A call that has made
all its updates makes no more. -/
def trace : Pending → List Event → List (Nat × RuleUpdates)
  | _, [] => []
  | pending, step :: events => trace pending events
  | pending, update call :: events =>
    ((pending call).head?.map (call, ·)).toList ++ trace (pending.advance call) events

/-- The updates of calls that events make. -/
def made (calls : List FlagCall) (events : List Event) : List RuleUpdates :=
  (trace (.ofCalls calls) events).map (·.2)

/-- The numbers of the calls that make these updates. -/
def makers (calls : List FlagCall) (events : List Event) : List Nat :=
  (trace (.ofCalls calls) events).map (·.1)

theorem trace_append_prefix (pending : Pending) (before rest : List Event) :
    trace pending before <+: trace pending (before ++ rest) := by
  induction before generalizing pending with
  | nil => exact List.nil_prefix
  | cons event before ih =>
    cases event with
    | step => exact ih pending
    | update call => exact (List.prefix_append_right_inj _).mpr (ih _)

/-- The run takes no step, or its first step follows the events before it. -/
theorem beforeRun_cases (events : List Event) :
    beforeRun events = events ∨ ∃ rest, events = beforeRun events ++ step :: rest := by
  induction events with
  | nil => exact .inl rfl
  | cons event events ih =>
    cases event with
    | step => exact .inr ⟨events, rfl⟩
    | update call =>
      rcases ih with hsame | ⟨rest, hrest⟩
      · exact .inl (congrArg (update call :: ·) hsame)
      · exact .inr ⟨rest, congrArg (update call :: ·) hrest⟩

theorem filter_beforeRun (events : List Event) : (beforeRun events).filter isStep = [] := by
  rw [List.filter_eq_nil_iff]
  intro event hevent
  have hbefore := List.all_eq_true.mp (List.all_takeWhile (p := fun e : Event => !e.isStep) (l := events))
  simpa using hbefore event hevent

theorem trace_beforeRun_prefix (pending : Pending) (events : List Event) :
    trace pending (beforeRun events) <+: trace pending events := by
  have hprefix := trace_append_prefix pending (beforeRun events) (events.dropWhile (!·.isStep))
  rwa [beforeRun, List.takeWhile_append_dropWhile] at hprefix

/-- Calls of one update each make it at once, and once only. -/
theorem trace_of_single {pending : Pending} (hpending : ∀ call, (pending call).length ≤ 1)
    (events : List Event) :
    ((trace pending events).map (·.1)).Nodup ∧
      ∀ p ∈ trace pending events, pending p.1 = [p.2] := by
  induction events generalizing pending with
  | nil => exact ⟨List.nodup_nil, by simp [trace]⟩
  | cons event events ih =>
    cases event with
    | step => exact ih hpending
    | update call =>
      have hlength := hpending call
      rcases hcall : pending call with _ | ⟨us, _ | ⟨us', rest⟩⟩
      · have hsame : pending.advance call = pending := by
          rw [Pending.advance, hcall]
          exact Function.update_eq_self_iff.mpr hcall.symm
        simp only [trace, hcall, hsame]
        exact ih hpending
      · have hadvance (other : Nat) :
            pending.advance call other = if other = call then [] else pending other := by
          rw [Pending.advance, Function.update_apply, hcall]
          rfl
        have hle (other : Nat) : (pending.advance call other).length ≤ 1 := by
          rw [hadvance]
          split
          · exact Nat.zero_le 1
          · exact hpending other
        obtain ⟨hnodup, hmade⟩ := ih hle
        have hother (p : Nat × RuleUpdates) (hp : p ∈ trace (pending.advance call) events) :
            p.1 ≠ call ∧ pending p.1 = [p.2] := by
          have hp := hmade p hp
          rw [hadvance] at hp
          split at hp
          · cases hp
          next hne => exact ⟨hne, hp⟩
        simp only [trace, hcall]
        refine ⟨List.nodup_cons.mpr ⟨?_, hnodup⟩, ?_⟩
        · intro hmem
          obtain ⟨p, hp, hpcall⟩ := List.mem_map.mp hmem
          exact (hother p hp).1 hpcall
        · intro p hp
          rcases List.mem_cons.mp hp with rfl | hp
          · exact hcall
          · exact (hother p hp).2
      · rw [hcall] at hlength
        simp at hlength

section Single

variable {calls : List FlagCall} (hsingle : ∀ c ∈ calls, c.updates.length ≤ 1)

include hsingle

theorem length_ofCalls_le (call : Nat) : (Pending.ofCalls calls call).length ≤ 1 := by
  rw [Pending.ofCalls]
  cases hc : calls[call]? with
  | none => exact Nat.zero_le 1
  | some c => exact hsingle c (List.mem_of_getElem? hc)

theorem made_eq_flatMap_makers (events : List Event) :
    made calls events =
      ((makers calls events).filterMap (calls[·]?)).flatMap FlagCall.updates := by
  have hmade := (trace_of_single (length_ofCalls_le hsingle) events).2
  rw [made, makers]
  generalize trace (.ofCalls calls) events = trace at hmade
  induction trace with
  | nil => rfl
  | cons p trace ih =>
    have hp : Pending.ofCalls calls p.1 = [p.2] := hmade p List.mem_cons_self
    rw [Pending.ofCalls] at hp
    cases hc : calls[p.1]? with
    | none =>
      rw [hc] at hp
      cases hp
    | some c =>
      rw [hc] at hp
      have hp : c.updates = [p.2] := hp
      simp only [List.map_cons, List.filterMap_cons, hc, List.flatMap_cons, hp,
        ih fun q hq => hmade q (List.mem_cons_of_mem p hq)]
      rfl

end Single

end Event

/-! ## Runs among other calls -/

/-- An engine with a run on it, and calls that change the flags of its registry. -/
structure Shared where
  engine : Engine
  run : Progress
  pending : Pending

namespace Shared

/-- An engine whose run has not begun, with calls that have not begun either. -/
def initial (e : Engine) (calls : List FlagCall) : Shared := ⟨e, .ready, .ofCalls calls⟩

variable (t : Submission) (cancelled : Bool)

/-- Engine, run and calls after an event. -/
def after (s : Shared) : Event → Shared
  | .update call =>
    { s with
      engine := s.engine.afterUpdates (s.pending call).head?.toList
      pending := s.pending.advance call }
  | .step => { s with run := s.run.next s.engine t cancelled }

/-- Engine, run and calls after events, one after the other. -/
def afterAll (s : Shared) (events : List Event) : Shared := events.foldl (after t cancelled) s

variable {t cancelled} {s : Shared}

@[simp] theorem afterAll_cons (event : Event) (events : List Event) :
    s.afterAll t cancelled (event :: events) =
      (s.after t cancelled event).afterAll t cancelled events := rfl

@[simp] theorem afterAll_append (events events' : List Event) :
    s.afterAll t cancelled (events ++ events') =
      (s.afterAll t cancelled events).afterAll t cancelled events' :=
  List.foldl_append

/-- The engine is the one that the updates leave. -/
theorem engine_afterAll (s : Shared) (t : Submission) (cancelled : Bool) (events : List Event) :
    (s.afterAll t cancelled events).engine =
      s.engine.afterUpdates ((Event.trace s.pending events).map (·.2)) := by
  induction events generalizing s with
  | nil => rfl
  | cons event events ih =>
    rw [afterAll_cons, ih]
    cases event with
    | step => rfl
    | update call =>
      have htoList : ((s.pending call).head?.map (call, ·)).toList.map (·.2) =
          (s.pending call).head?.toList := by
        cases (s.pending call).head? <;> rfl
      rw [Event.trace, List.map_append, htoList, afterUpdates_append]
      rfl

theorem run_afterAll_beforeRun (s : Shared) (t : Submission) (cancelled : Bool)
    (events : List Event) :
    (s.afterAll t cancelled (Event.beforeRun events)).run = s.run := by
  induction events generalizing s with
  | nil => rfl
  | cons event events ih =>
    cases event with
    | step => rfl
    | update call => exact ih (s.after t cancelled (.update call))

theorem begun_after_step (s : Shared) (t : Submission) (cancelled : Bool) :
    (s.after t cancelled .step).run.Begun := Progress.begun_next

theorem outlook_after_step (s : Shared) :
    (s.after t cancelled .step).run.outlook s.engine t cancelled = s.run.outlook s.engine t cancelled :=
  Progress.outlook_next

/-- Once a run has begun, no event changes what comes out of it. -/
theorem outlook_afterAll (t : Submission) (cancelled : Bool) (h : s.run.Begun) (events : List Event) :
    (s.afterAll t cancelled events).run.outlook (s.afterAll t cancelled events).engine t cancelled =
      s.run.outlook s.engine t cancelled := by
  induction events generalizing s with
  | nil => rfl
  | cons event events ih =>
    cases event with
    | update call =>
      have hupdate := ih (s := s.after t cancelled (.update call)) h
      exact hupdate.trans (Progress.outlook_withRegistry h _)
    | step =>
      exact (ih (s.begun_after_step t cancelled)).trans s.outlook_after_step

/-- Once a run has begun, it goes on as if there were no calls and whatever the registry is. -/
theorem run_afterAll_filter (t : Submission) (cancelled : Bool) (h : s.run.Begun) (r : Registry)
    (pending : Pending) (events : List Event) :
    ((Shared.mk (s.engine.withRegistry r) s.run pending).afterAll t cancelled events).run =
      (s.afterAll t cancelled (events.filter Event.isStep)).run := by
  induction events generalizing s r pending with
  | nil => rfl
  | cons event events ih =>
    cases event with
    | update call => exact ih h _ _
    | step =>
      rw [List.filter_cons_of_pos Event.isStep_step, afterAll_cons, afterAll_cons,
        ← ih (s.begun_after_step t cancelled) r pending]
      simp only [after, Progress.next_withRegistry h]

/-- Each step of a run takes it nearer to its end, whatever happens between the steps. -/
theorem stepsLeft_afterAll {rules : Nat} (hsize : s.engine.registry.size = rules)
    (events : List Event) :
    (s.afterAll t cancelled events).run.stepsLeft rules ≤
      s.run.stepsLeft rules - events.countP Event.isStep := by
  induction events generalizing s with
  | nil => exact Nat.le_refl _
  | cons event events ih =>
    cases event with
    | update call =>
      rw [List.countP_cons_of_neg (by simp)]
      exact ih (s := s.after t cancelled (.update call)) ((s.engine.size_afterUpdates _).trans hsize)
    | step =>
      have hrules : s.engine.registry.enabledRules.length ≤ rules :=
        hsize ▸ s.engine.registry.length_enabledRules_le
      have hnext : (s.after t cancelled .step).run.stepsLeft rules ≤ s.run.stepsLeft rules - 1 :=
        Progress.stepsLeft_next hrules
      have hstep := ih (s := s.after t cancelled .step) hsize
      rw [List.countP_cons_of_pos Event.isStep_step, afterAll_cons]
      omega

end Shared

/-- Before the first step the run is as it was, and the engine is the one that the updates leave. -/
theorem initial_afterAll_beforeRun (e : Engine) (t : Submission) (cancelled : Bool)
    (calls : List FlagCall) (events : List Event) : ∃ pending,
    (Shared.initial e calls).afterAll t cancelled (Event.beforeRun events) =
      ⟨e.afterUpdates (Event.made calls (Event.beforeRun events)), .ready, pending⟩ := by
  have hengine := Shared.engine_afterAll (.initial e calls) t cancelled (Event.beforeRun events)
  have hrun := Shared.run_afterAll_beforeRun (.initial e calls) t cancelled events
  generalize (Shared.initial e calls).afterAll t cancelled (Event.beforeRun events) = s at hengine hrun
  cases s
  cases hengine
  cases hrun
  exact ⟨_, rfl⟩

/-- What comes out of a run comes from the flags that the updates before its first step left. -/
theorem outcome_of_ended {e : Engine} {t : Submission} {cancelled : Bool} {calls : List FlagCall}
    {events : List Event} {outcome : Except AnalysisError Review}
    (h : ((Shared.initial e calls).afterAll t cancelled events).run = .ended outcome) :
    outcome = t.analyze (e.afterUpdates (Event.made calls (Event.beforeRun events))) cancelled := by
  obtain ⟨pending, hbefore⟩ := e.initial_afterAll_beforeRun t cancelled calls events
  rcases Event.beforeRun_cases events with hnone | ⟨rest, hrest⟩
  · rw [hnone] at hbefore
    rw [hbefore] at h
    cases h
  · rw [hrest, Shared.afterAll_append, hbefore, Shared.afterAll_cons] at h
    generalize e.afterUpdates (Event.made calls (Event.beforeRun events)) = e' at h ⊢
    have houtlook := Shared.outlook_afterAll t cancelled
      ((Shared.mk e' .ready pending).begun_after_step t cancelled) rest
    rw [h] at houtlook
    exact houtlook.trans (Shared.mk e' .ready pending).outlook_after_step

/-- A run that keeps to the flags which it read in its first step, whatever happens around it. -/
structure RunsOnSnapshot (e : Engine) (t : Submission) (cancelled : Bool) (calls : List FlagCall)
    (events : List Event) : Prop where
  /-- What comes out is what an analysis in one go gives with the flags that the updates before the first
  step left, which are the first of all updates. -/
  outcome_eq : ∀ outcome,
    ((Shared.initial e calls).afterAll t cancelled events).run = .ended outcome →
      Event.made calls (Event.beforeRun events) <+: Event.made calls events ∧
      outcome = t.analyze (e.afterUpdates (Event.made calls (Event.beforeRun events))) cancelled
  /-- If these updates are those of calls one after the other, it is what comes out after the calls. -/
  outcome_of_calls : ∀ outcome order,
    ((Shared.initial e calls).afterAll t cancelled events).run = .ended outcome →
    Event.made calls (Event.beforeRun events) = order.flatMap FlagCall.updates →
      outcome = t.analyze (e.afterCalls order) cancelled
  /-- If each call is one update, these are the calls before the first step. -/
  outcome_of_single : (∀ c ∈ calls, c.updates.length ≤ 1) → (Event.makers calls events).Nodup ∧
    ∀ outcome, ((Shared.initial e calls).afterAll t cancelled events).run = .ended outcome →
      ∃ order, order <+: Event.makers calls events ∧
        outcome = t.analyze (e.afterCalls (order.filterMap (calls[·]?))) cancelled
  /-- Updates after the first step change nothing about the run. -/
  updates_ignored : ((Shared.initial e calls).afterAll t cancelled events).run =
    ((Shared.initial e calls).afterAll t cancelled
      (Event.beforeRun events ++ events.filter Event.isStep)).run
  /-- The run ends after two steps more than there are rules, at the latest. -/
  ends : e.registry.size + 2 ≤ events.countP Event.isStep →
    ∃ outcome, ((Shared.initial e calls).afterAll t cancelled events).run = .ended outcome

/-- **A run sees one state of the flags.** It is that after the updates before the run, and that after the
calls before it if no call was half made. -/
theorem runsOnSnapshot (e : Engine) (t : Submission) (cancelled : Bool) (calls : List FlagCall)
    (events : List Event) : e.RunsOnSnapshot t cancelled calls events where
  outcome_eq := by
    intro outcome hended
    exact ⟨(Event.trace_beforeRun_prefix _ events).map _, outcome_of_ended hended⟩
  outcome_of_calls := by
    intro outcome order hended horder
    rw [outcome_of_ended hended, horder, afterUpdates_flatMap]
  outcome_of_single := by
    intro hsingle
    refine ⟨(Event.trace_of_single (Event.length_ofCalls_le hsingle) events).1, ?_⟩
    intro outcome hended
    refine ⟨Event.makers calls (Event.beforeRun events),
      (Event.trace_beforeRun_prefix _ events).map _, ?_⟩
    rw [outcome_of_ended hended, Event.made_eq_flatMap_makers hsingle, afterUpdates_flatMap]
  updates_ignored := by
    obtain ⟨pending, hbefore⟩ := e.initial_afterAll_beforeRun t cancelled calls events
    rw [Shared.afterAll_append, hbefore]
    generalize e.afterUpdates (Event.made calls (Event.beforeRun events)) = e' at hbefore ⊢
    rcases Event.beforeRun_cases events with hnone | ⟨rest, hrest⟩
    · rw [hnone] at hbefore
      rw [hbefore, ← hnone, Event.filter_beforeRun]
      rfl
    · have hfilter : events.filter Event.isStep = .step :: rest.filter Event.isStep := by
        rw [hrest, List.filter_append, Event.filter_beforeRun, List.nil_append,
          List.filter_cons_of_pos Event.isStep_step]
      have hevents : (Shared.initial e calls).afterAll t cancelled events =
          (Shared.mk e' .ready pending).afterAll t cancelled (.step :: rest) := by
        rw [← hbefore, ← Shared.afterAll_append, ← hrest]
      rw [hfilter, hevents, Shared.afterAll_cons, Shared.afterAll_cons]
      exact Shared.run_afterAll_filter t cancelled
        ((Shared.mk e' .ready pending).begun_after_step t cancelled) e'.registry pending rest
  ends := by
    intro hsteps
    have hleft : ((Shared.initial e calls).afterAll t cancelled events).run.stepsLeft
        e.registry.size ≤ Progress.ready.stepsLeft e.registry.size - events.countP Event.isStep :=
      Shared.stepsLeft_afterAll rfl events
    have hzero : Progress.ready.stepsLeft e.registry.size - events.countP Event.isStep = 0 :=
      Nat.sub_eq_zero_of_le hsteps
    exact Progress.ended_of_stepsLeft (Nat.le_zero.mp (hzero ▸ hleft))

/-- An engine with one rule, which is on. -/
def reminderEngine : Engine where
  registry := ⟨[⟨.todoComment, true⟩], by decide, by decide⟩

/-- A text that the rule has a finding for. -/
def reminder : Submission := ⟨"// TODO", "A.java", .ofParts 0 0⟩

/-- Settings that switch the rule off and then on. -/
def offThenOn : FlagCall := .apply { disabled := ["todo-comment"], overrides := [("todo-comment", true)] }

/-- A run can begin between the two updates of a call. What comes out then comes out neither before the call
nor after it. -/
theorem halfApplied_unlike_calls : ∃ outcome,
    ((Shared.initial reminderEngine [offThenOn]).afterAll reminder false
      [.update 0, .step, .update 0, .step]).run = .ended outcome ∧
    ∀ before, before <+: [offThenOn] →
      outcome ≠ reminder.analyze (reminderEngine.afterCalls before) false := by
  have hprefix : ∀ before, before <+: [offThenOn] → before = [] ∨ before = [offThenOn] := by
    intro before h
    simpa using List.prefix_cons_iff.mp h
  refine ⟨_, rfl, ?_⟩
  intro before hbefore heq
  have hcount := congrArg (fun x => x.toOption.map (·.issues.map List.length)) heq
  rcases hprefix before hbefore with rfl | rfl
  · revert hcount
    decide +kernel
  · revert hcount
    decide +kernel

end Engine

end JavaReview
