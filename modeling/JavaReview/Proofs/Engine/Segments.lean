import JavaReview.Engine

/-!
What a run of the engine is made of. `Contributes` says what a rule adds to a run without going through
the run itself, and `Engine.IsRun` says that a list of segments is the run of an engine: one segment for
each rule that is on, in the order of registration. `Engine.analyze_eq_ok_iff` is the one lemma on
`Engine.analyze` that later statements use.
-/

namespace JavaReview

namespace Engine

variable {isolate : Bool} {ctx : Context}

/-- What a rule adds to a run: its findings, or the one finding that stands for its fault if faults
are isolated. -/
inductive Contributes (isolate : Bool) (ctx : Context) (r : Rule) : List Finding → Prop
  | findings {fs : List Finding} : r.apply ctx = .ok fs → Contributes isolate ctx r fs
  | fault {f : Fault} : r.apply ctx = .error f → isolate = true →
      Contributes isolate ctx r [failureFinding r.name f]

theorem segment_eq_ok_iff {r : Rule} {fs : List Finding} :
    segment isolate ctx r = .ok fs ↔ Contributes isolate ctx r fs := by
  unfold segment
  constructor
  · intro h
    cases happly : r.apply ctx with
    | ok fs' =>
      rw [happly] at h
      cases h
      exact .findings happly
    | error f =>
      rw [happly] at h
      cases hisolate : isolate with
      | true =>
        simp only [hisolate, if_true] at h
        cases h
        exact .fault happly rfl
      | false => simp [hisolate] at h
  · intro h
    cases h with
    | findings happly => rw [happly]
    | fault happly hisolate => simp [happly, hisolate]

/-- A rule and what it added to a run. -/
structure Segment where
  rule : Rule
  findings : List Finding

theorem segments_eq_ok_iff {rs : List Rule} {ss : List (List Finding)} :
    segments isolate ctx rs = .ok ss ↔
      ∃ segs : List Segment, segs.map (·.rule) = rs ∧ segs.map (·.findings) = ss ∧
        ∀ s ∈ segs, Contributes isolate ctx s.rule s.findings := by
  induction rs generalizing ss with
  | nil =>
    constructor
    · intro h
      cases h
      exact ⟨[], rfl, rfl, by simp⟩
    · rintro ⟨segs, hrules, rfl, -⟩
      rw [List.map_eq_nil_iff.mp hrules]
      rfl
  | cons r rs ih =>
    rw [segments]
    constructor
    · intro h
      cases hseg : segment isolate ctx r with
      | error e => simp [hseg] at h
      | ok fs =>
        cases hrest : segments isolate ctx rs with
        | error e => simp [hseg, hrest] at h
        | ok rest =>
          simp only [hseg, hrest, Except.ok.injEq] at h
          obtain ⟨segs, hrules, hfindings, hall⟩ := ih.mp hrest
          refine ⟨⟨r, fs⟩ :: segs, by simp [hrules], by simp [hfindings, h], ?_⟩
          intro s hs
          rcases List.mem_cons.mp hs with rfl | hs
          · exact segment_eq_ok_iff.mp hseg
          · exact hall s hs
    · rintro ⟨segs, hrules, rfl, hall⟩
      cases segs with
      | nil => cases hrules
      | cons s segs =>
        simp only [List.map_cons, List.cons.injEq] at hrules
        obtain ⟨rfl, hrules⟩ := hrules
        have hhead := segment_eq_ok_iff.mpr (hall s List.mem_cons_self)
        have htail := ih.mpr ⟨segs, hrules, rfl, fun t ht => hall t (List.mem_cons_of_mem _ ht)⟩
        simp [hhead, htail]

theorem exists_segments {rs : List Rule} (h : ∀ r ∈ rs, ∃ fs, Contributes isolate ctx r fs) :
    ∃ segs : List Segment, segs.map (·.rule) = rs ∧
      ∀ s ∈ segs, Contributes isolate ctx s.rule s.findings := by
  induction rs with
  | nil => exact ⟨[], rfl, by simp⟩
  | cons r rs ih =>
    rw [List.forall_mem_cons] at h
    obtain ⟨fs, hfs⟩ := h.1
    obtain ⟨segs, hrules, hall⟩ := ih h.2
    exact ⟨⟨r, fs⟩ :: segs, by rw [List.map_cons, hrules], List.forall_mem_cons.mpr ⟨hfs, hall⟩⟩

/-- The findings of segments, one after the other. -/
def findingsOf (segs : List Segment) : List Finding := segs.flatMap (·.findings)

/-- What the compiler of an engine adds to a review. -/
def compilerFindings (e : Engine) (source filename : String) : List Finding :=
  Diagnostic.findings e.compiler source (TypeName.primary filename source)

/-- The segments of a whole run, one for each rule that is on. -/
structure IsRun (e : Engine) (source filename : String) (segs : List Segment) : Prop where
  rules_eq : segs.map (·.rule) = e.registry.enabledRules
  contributes : ∀ s ∈ segs, Contributes e.isolateFaults
    (.ofSource source (Review.filenameOr filename)) s.rule s.findings

/-- There is a run if every rule that is on contributes something. -/
theorem exists_isRun_of_contributes {e : Engine} {source filename : String}
    (h : ∀ r ∈ e.registry.enabledRules, ∃ fs, Contributes e.isolateFaults
      (.ofSource source (Review.filenameOr filename)) r fs) : ∃ segs, e.IsRun source filename segs := by
  obtain ⟨segs, hrules, hall⟩ := exists_segments h
  exact ⟨segs, hrules, hall⟩

theorem run_eq_ok_iff {e : Engine} {source filename : String} {fs : List Finding} :
    run e.isolateFaults e.compiler e.registry.enabledRules source filename = .ok fs ↔
      ∃ segs, e.IsRun source filename segs ∧
        fs = findingsOf segs ++ e.compilerFindings source filename := by
  unfold run
  constructor
  · intro h
    cases hss : segments e.isolateFaults (.ofSource source (Review.filenameOr filename))
        e.registry.enabledRules with
    | error err =>
      rw [hss] at h
      cases h
    | ok ss =>
      rw [hss] at h
      cases h
      obtain ⟨segs, hrules, rfl, hall⟩ := segments_eq_ok_iff.mp hss
      exact ⟨segs, ⟨hrules, hall⟩, by rw [findingsOf, List.flatMap_def]; rfl⟩
  · rintro ⟨segs, hrun, rfl⟩
    rw [segments_eq_ok_iff.mpr ⟨segs, hrun.rules_eq, rfl, hrun.contributes⟩]
    rw [findingsOf, List.flatMap_def]
    rfl

/-- An analysis gives a review if it was not cancelled before its first rule and every rule that is on
contributes; the review then holds the segments, and the findings of the compiler last. -/
theorem analyze_eq_ok_iff {e : Engine} {now : Instant} {cancelled : Bool}
    {source filename : String} {r : Review} :
    e.analyze now cancelled source filename = .ok r ↔
      (cancelled = true → e.registry.enabledRules = []) ∧
        ∃ segs, e.IsRun source filename segs ∧
          r = review now source filename
            (findingsOf segs ++ e.compilerFindings source filename) := by
  unfold analyze
  by_cases hc : cancelled = true → e.registry.enabledRules = []
  · have hif : ¬ (cancelled && !e.registry.enabledRules.isEmpty) = true := by
      cases cancelled <;> simp_all
    rw [if_neg hif]
    constructor
    · intro h
      cases hrun : run e.isolateFaults e.compiler e.registry.enabledRules source filename with
      | error err =>
        rw [hrun] at h
        cases h
      | ok fs =>
        rw [hrun] at h
        cases h
        obtain ⟨segs, hsegs, rfl⟩ := run_eq_ok_iff.mp hrun
        exact ⟨hc, segs, hsegs, rfl⟩
    · rintro ⟨-, segs, hsegs, rfl⟩
      rw [run_eq_ok_iff.mpr ⟨segs, hsegs, rfl⟩]
      rfl
  · have hif : (cancelled && !e.registry.enabledRules.isEmpty) = true := by
      cases cancelled <;> simp_all
    rw [if_pos hif]
    constructor
    · intro h
      cases h
    · intro h
      exact absurd h.1 hc

@[simp] theorem review_issues (now : Instant) (source filename : String) (fs : List Finding) :
    (review now source filename fs).issues = some fs := rfl

@[simp] theorem review_counts (now : Instant) (source filename : String) (fs : List Finding) :
    (review now source filename fs).counts = .tally fs := rfl

end Engine

end JavaReview
