import JavaReview.Proofs.Engine.Segments
import JavaReview.Proofs.Registry.Flags
import Mathlib.Data.List.Perm.Basic

/-!
Switching rules off and on between two analyses of one text. The findings of the second analysis are
those of the first without the segments of the rules that were switched off, and the counts fall by
what was in these segments.
-/

namespace JavaReview

theorem Counts.tally_perm {fs gs : List Finding} (h : fs.Perm gs) : tally fs = tally gs := by
  simp only [tally, ofCategory, h.countP_eq]

namespace Engine

/-- The engine with updated flags. -/
def setStates (e : Engine) (us : RuleUpdates) : Engine :=
  { e with registry := e.registry.setStates us }

@[simp] theorem compilerFindings_setStates (e : Engine) (us : RuleUpdates)
    (source filename : String) :
    (e.setStates us).compilerFindings source filename = e.compilerFindings source filename := rfl

/-- The segments of the rules that are not named. -/
def keptSegments (names : List String) (segs : List Segment) : List Segment :=
  segs.filter fun s => s.rule.name ∉ names

/-- The segments of the rules that are named. -/
def droppedSegments (names : List String) (segs : List Segment) : List Segment :=
  segs.filter fun s => s.rule.name ∈ names

theorem IsRun.setStates_off {e : Engine} {source filename : String} {segs : List Segment}
    (h : e.IsRun source filename segs) (names : List String) :
    (e.setStates (.all false names)).IsRun source filename (keptSegments names segs) where
  rules_eq := by
    show _ = (e.registry.setStates (.all false names)).enabledRules
    rw [Registry.enabledRules_setStates_off, ← h.rules_eq, List.filter_map]
    rfl
  contributes s hs := h.contributes s (List.mem_of_mem_filter hs)

theorem tally_findingsOf (names : List String) (segs : List Segment) :
    Counts.tally (findingsOf segs) = Counts.tally (findingsOf (keptSegments names segs)) +
      Counts.tally (findingsOf (droppedSegments names segs)) := by
  have hperm := List.filter_append_perm (fun s : Segment => decide (s.rule.name ∉ names)) segs
  have hdropped : segs.filter (fun s => !decide (s.rule.name ∉ names)) =
      droppedSegments names segs := by simp [droppedSegments]
  rw [hdropped] at hperm
  rw [← Counts.tally_append, findingsOf, findingsOf, findingsOf, ← List.flatMap_append]
  exact Counts.tally_perm (hperm.symm.flatMap_right _)

theorem setStates_restore (e : Engine) (names : List String) :
    (e.setStates (.all false names)).setStates
      (.all true (names.filter fun n => n ∈ e.registry.enabledNames)) = e := by
  simp only [setStates, Registry.setStates_restore]

/-- **Switching rules off** after an analysis takes exactly their segments out of the findings and out of
the counts, and switching those of them that were on back on restores both. The instants of the three
analyses are arbitrary. -/
theorem analyze_switch_off_on (e : Engine) (now now' now'' : Instant) (cancelled : Bool)
    (source filename : String) (names : List String) (r : Review)
    (h : e.analyze now cancelled source filename = .ok r) :
    ∃ segs, e.IsRun source filename segs ∧
      r.issues = some (findingsOf segs ++ e.compilerFindings source filename) ∧
      (∃ r', (e.setStates (.all false names)).analyze now' cancelled source filename = .ok r' ∧
        r'.issues =
          some (findingsOf (keptSegments names segs) ++ e.compilerFindings source filename) ∧
        r.counts = r'.counts + .tally (findingsOf (droppedSegments names segs))) ∧
      ∃ r'', ((e.setStates (.all false names)).setStates
          (.all true (names.filter fun n => n ∈ e.registry.enabledNames))).analyze
            now'' cancelled source filename = .ok r'' ∧
        r''.issues = r.issues ∧ r''.counts = r.counts := by
  obtain ⟨hcancelled, segs, hrun, rfl⟩ := analyze_eq_ok_iff.mp h
  have hrun' := hrun.setStates_off names
  refine ⟨segs, hrun, rfl, ⟨_, analyze_eq_ok_iff.mpr ⟨?_, _, hrun', rfl⟩, rfl, ?_⟩, ?_⟩
  · intro hc
    -- a cancelled run succeeded only because no rule was on, and switching off turns none on
    have hnil : segs = [] := by
      rw [← List.map_eq_nil_iff, hrun.rules_eq]
      exact hcancelled hc
    rw [← hrun'.rules_eq, hnil]
    rfl
  · simp only [review_counts, Counts.tally_append, tally_findingsOf names segs]
    ext <;> simp <;> omega
  · rw [setStates_restore]
    exact ⟨_, analyze_eq_ok_iff.mpr ⟨hcancelled, segs, hrun, rfl⟩, rfl, rfl⟩

/-- An engine with a rule that reports, one that fails and is isolated, one that is off, and a compiler
that reports too. -/
def mixed : Engine where
  registry :=
    { entries :=
        [⟨⟨"reports", "", fun _ => .ok [{ line := 1, category := .security }]⟩, true⟩,
          ⟨⟨"fails", "", fun _ => .error (.value "no")⟩, true⟩,
          ⟨⟨"is-off", "", fun _ => .ok [{ line := 2, category := .error }]⟩, false⟩]
      name_ne_empty := by decide
      names_nodup := by decide }
  compiler := some fun _ _ => .ok [{ line := 3 }]
  isolateFaults := true

theorem analyze_switch_off_on_mixed :
    ∃ r, mixed.analyze .zero false "class A {}" "A.java" = .ok r ∧
      ∃ segs, mixed.IsRun "class A {}" "A.java" segs ∧
        r.issues = some (findingsOf segs ++ mixed.compilerFindings "class A {}" "A.java") ∧
        (∃ r', (mixed.setStates (.all false ["fails", "is-off", "unknown"])).analyze
            .zero false "class A {}" "A.java" = .ok r' ∧
          r'.issues = some (findingsOf (keptSegments ["fails", "is-off", "unknown"] segs) ++
            mixed.compilerFindings "class A {}" "A.java") ∧
          r.counts = r'.counts +
            .tally (findingsOf (droppedSegments ["fails", "is-off", "unknown"] segs))) ∧
        ∃ r'', ((mixed.setStates (.all false ["fails", "is-off", "unknown"])).setStates
            (.all true (["fails", "is-off", "unknown"].filter fun n =>
              n ∈ mixed.registry.enabledNames))).analyze .zero false "class A {}" "A.java" =
              .ok r'' ∧
          r''.issues = r.issues ∧ r''.counts = r.counts :=
  ⟨_, rfl, analyze_switch_off_on mixed .zero .zero .zero false "class A {}" "A.java"
    ["fails", "is-off", "unknown"] _ rfl⟩

end Engine

end JavaReview
