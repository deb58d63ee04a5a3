import JavaReview.Proofs.Engine.Toggling

/-!
Rules that fail. Without isolation a run ends at the first rule that is on and fails, with the error of
that rule (`Engine.segments_eq_error_iff`). With isolation every rule contributes
(`Engine.exists_contributes`), a failing one with a single finding in its place, so that leaving the
failing rules out takes just these findings away (`Engine.IsRun.withoutFaults`). `Engine.treatsFaults`
puts the two settings side by side.
-/

namespace JavaReview.Engine

/-- What the rules are shown in an analysis. -/
abbrev contextOf (source filename : String) : Context := .ofSource source (Review.filenameOr filename)

/-- The engine with faults isolated or not. -/
def isolating (e : Engine) (isolate : Bool) : Engine := { e with isolateFaults := isolate }

/-! ## Rules that fail -/

/-- A rule that fails on a context. -/
def Faults (ctx : Context) (r : Rule) : Prop := ∃ fault, r.apply ctx = .error fault

theorem not_faults_iff {ctx : Context} {r : Rule} :
    ¬ Faults ctx r ↔ ∃ fs, r.apply ctx = .ok fs := by
  unfold Faults
  cases r.apply ctx <;> simp

instance (ctx : Context) (r : Rule) : Decidable (Faults ctx r) :=
  match h : r.apply ctx with
  | .error fault => isTrue ⟨fault, h⟩
  | .ok fs => isFalse (not_faults_iff.mpr ⟨fs, h⟩)

/-- An error that names the first rule of a list that fails, with its fault. -/
def FirstFault (ctx : Context) (rs : List Rule) (err : AnalysisError) : Prop :=
  ∃ before r after fault, rs = before ++ r :: after ∧ (∀ r' ∈ before, ¬ Faults ctx r') ∧
    r.apply ctx = .error fault ∧ err = .ruleFailed r.name fault

section FirstFault

variable {ctx : Context} {rs : List Rule} {err : AnalysisError}

theorem not_firstFault_nil : ¬ FirstFault ctx [] err := by
  rintro ⟨before, r, after, _, hrules, -⟩
  cases before <;> cases hrules

/-- Where the first rule fails, it is the first that fails. -/
theorem firstFault_cons_of_error {r : Rule} {fault : Fault} (h : r.apply ctx = .error fault) :
    FirstFault ctx (r :: rs) err ↔ err = .ruleFailed r.name fault := by
  constructor
  · rintro ⟨before, r', after, fault', hrules, hbefore, hfault, rfl⟩
    cases before with
    | nil =>
      cases hrules
      rw [h] at hfault
      cases hfault
      rfl
    | cons first before =>
      cases hrules
      exact absurd ⟨fault, h⟩ (hbefore r List.mem_cons_self)
  · rintro rfl
    exact ⟨[], r, rs, fault, rfl, by simp, h, rfl⟩

/-- Where the first rule does not fail, the first that does is among the others. -/
theorem firstFault_cons_of_ok {r : Rule} {fs : List Finding} (h : r.apply ctx = .ok fs) :
    FirstFault ctx (r :: rs) err ↔ FirstFault ctx rs err := by
  constructor
  · rintro ⟨before, r', after, fault, hrules, hbefore, hfault, rfl⟩
    cases before with
    | nil =>
      cases hrules
      rw [h] at hfault
      cases hfault
    | cons first before =>
      cases hrules
      exact ⟨before, r', after, fault, rfl, fun x hx => hbefore x (List.mem_cons_of_mem _ hx),
        hfault, rfl⟩
  · rintro ⟨before, r', after, fault, rfl, hbefore, hfault, rfl⟩
    refine ⟨r :: before, r', after, fault, rfl, ?_, hfault, rfl⟩
    intro x hx
    rcases List.mem_cons.mp hx with rfl | hx
    · exact not_faults_iff.mpr ⟨fs, h⟩
    · exact hbefore x hx

/-- Some rule of a list fails exactly if there is a first one. -/
theorem exists_firstFault_iff : (∃ err, FirstFault ctx rs err) ↔ ∃ r ∈ rs, Faults ctx r := by
  constructor
  · rintro ⟨err, before, r, after, fault, rfl, -, hfault, -⟩
    exact ⟨r, by simp, fault, hfault⟩
  · rintro ⟨r, hr, hfaults⟩
    induction rs with
    | nil => cases hr
    | cons first rs ih =>
      cases happly : first.apply ctx with
      | error fault => exact ⟨_, (firstFault_cons_of_error happly).mpr rfl⟩
      | ok fs =>
        rcases List.mem_cons.mp hr with rfl | hr
        · exact absurd hfaults (not_faults_iff.mpr ⟨fs, happly⟩)
        · obtain ⟨err, herr⟩ := ih hr
          exact ⟨err, (firstFault_cons_of_ok happly).mpr herr⟩

/-- Without isolation, rules end a run with the error of the first that fails. -/
theorem segments_eq_error_iff : segments false ctx rs = .error err ↔ FirstFault ctx rs err := by
  induction rs with
  | nil => exact iff_of_false (by simp [segments]) not_firstFault_nil
  | cons r rs ih =>
    cases happly : r.apply ctx with
    | error fault =>
      have hseg : segment false ctx r = .error (.ruleFailed r.name fault) := by simp [segment, happly]
      rw [segments, hseg, firstFault_cons_of_error happly, Except.error.injEq]
      exact eq_comm
    | ok fs =>
      have hseg : segment false ctx r = .ok fs := by simp [segment, happly]
      rw [segments, hseg, firstFault_cons_of_ok happly, ← ih]
      cases segments false ctx rs <;> simp

end FirstFault

/-- An analysis without isolation fails exactly with the error of the first rule that is on and fails. -/
theorem analyze_eq_error_iff {e : Engine} {now : Instant} {source filename : String}
    {err : AnalysisError} :
    (e.isolating false).analyze now false source filename = .error err ↔
      FirstFault (contextOf source filename) e.registry.enabledRules err := by
  rw [← segments_eq_error_iff]
  simp only [analyze, run, isolating, Bool.false_and, Bool.false_eq_true, if_false]
  cases segments false (contextOf source filename) e.registry.enabledRules <;> simp [Except.map]

/-! ## Isolated faults -/

section Isolated

variable {ctx : Context}

/-- With isolation every rule contributes. -/
theorem exists_contributes (ctx : Context) (r : Rule) : ∃ fs, Contributes true ctx r fs := by
  cases happly : r.apply ctx with
  | ok fs => exact ⟨fs, .findings happly⟩
  | error fault => exact ⟨_, .fault happly rfl⟩

/-- A rule that contributes without isolation contributes the same with it. -/
theorem Contributes.isolated {isolate : Bool} {r : Rule} {fs : List Finding}
    (h : Contributes false ctx r fs) : Contributes isolate ctx r fs := by
  cases h with
  | findings happly => exact .findings happly
  | fault _ hisolate => cases hisolate

/-- What a rule contributes that does not fail is what it finds, under both settings. -/
theorem Contributes.findings_eq {isolate : Bool} {r : Rule} {fs : List Finding}
    (h : Contributes isolate ctx r fs) (hok : ¬ Faults ctx r) : r.apply ctx = .ok fs := by
  cases h with
  | findings happly => exact happly
  | fault happly _ => exact absurd ⟨_, happly⟩ hok

/-- A finding that stands for the fault of a rule. -/
structure StandsFor (rule : String) (fault : Fault) (f : Finding) : Prop where
  rule_eq : f.rule = rule
  title_eq : f.title = "Rule failed"
  category_eq : f.category = .warning
  severity_eq : f.severity = .low
  description_eq : f.description = (AnalysisError.ruleFailed rule fault).message

/-- What a failing rule contributes is one finding that stands for its fault. -/
theorem Contributes.of_fault {isolate : Bool} {r : Rule} {fs : List Finding} {fault : Fault}
    (h : Contributes isolate ctx r fs) (hfault : r.apply ctx = .error fault) :
    ∃ f, fs = [f] ∧ StandsFor r.name fault f := by
  cases h with
  | findings happly =>
    rw [happly] at hfault
    cases hfault
  | fault happly _ =>
    rw [happly] at hfault
    cases hfault
    exact ⟨_, rfl, rfl, rfl, rfl, rfl, rfl⟩

end Isolated

section Runs

variable {e : Engine} {source filename : String}

theorem exists_isRun (e : Engine) (source filename : String) :
    ∃ segs, (e.isolating true).IsRun source filename segs :=
  exists_isRun_of_contributes fun r _ => exists_contributes (contextOf source filename) r

/-- A run without isolation is a run with it. -/
theorem IsRun.isolated {segs : List Segment} (h : (e.isolating false).IsRun source filename segs)
    (isolate : Bool) : (e.isolating isolate).IsRun source filename segs :=
  ⟨h.rules_eq, fun s hs => (h.contributes s hs).isolated⟩

/-- The names of the rules that are on and fail. -/
def faultingNames (e : Engine) (source filename : String) : List String :=
  (e.registry.enabledRules.filter fun r => Faults (contextOf source filename) r).map (·.name)

/-- The engine with the rules that fail switched off. -/
def withoutFaults (e : Engine) (source filename : String) : Engine :=
  e.setStates (.all false (e.faultingNames source filename))

/-- The segments of the rules that do not fail. -/
def soundSegments (source filename : String) (segs : List Segment) : List Segment :=
  segs.filter fun s => ¬ Faults (contextOf source filename) s.rule

theorem mem_faultingNames_iff {r : Rule} (hr : r ∈ e.registry.enabledRules) :
    r.name ∈ e.faultingNames source filename ↔ Faults (contextOf source filename) r := by
  simp only [faultingNames, List.mem_map, List.mem_filter, decide_eq_true_eq]
  constructor
  · rintro ⟨r', ⟨hr', hfaults⟩, hname⟩
    -- Names are not repeated, so the rule of this name that fails is the rule itself.
    obtain ⟨entry, hentry, rfl⟩ := List.mem_map.mp hr
    obtain ⟨entry', hentry', rfl⟩ := List.mem_map.mp hr'
    rw [← Registry.eq_of_name_eq (List.mem_of_mem_filter hentry') (List.mem_of_mem_filter hentry)
      hname]
    exact hfaults
  · intro hfaults
    exact ⟨r, ⟨hr, hfaults⟩, rfl⟩

/-- With the failing rules switched off, the other segments are left. They are a run under both
settings. -/
theorem IsRun.withoutFaults {segs : List Segment} (h : (e.isolating true).IsRun source filename segs)
    (isolate : Bool) :
    ((e.withoutFaults source filename).isolating isolate).IsRun source filename
      (soundSegments source filename segs) := by
  have hrule {s : Segment} (hs : s ∈ segs) : s.rule ∈ e.registry.enabledRules := by
    have hmem : s.rule ∈ segs.map (·.rule) := List.mem_map_of_mem hs
    rw [h.rules_eq] at hmem
    exact hmem
  have hkept : keptSegments (e.faultingNames source filename) segs =
      soundSegments source filename segs := by
    refine List.filter_congr fun s hs => ?_
    simp only [mem_faultingNames_iff (hrule hs)]
  have hoff := h.setStates_off (e.faultingNames source filename)
  rw [hkept] at hoff
  refine ⟨hoff.rules_eq, fun s hs => ?_⟩
  obtain ⟨hs, hok⟩ := List.mem_filter.mp hs
  exact .findings ((h.contributes s hs).findings_eq (by simpa using hok))

end Runs

/-! ## Both settings -/

/-- How an engine treats rules that fail on a text, as an analysis at an instant shows it. -/
structure TreatsFaults (e : Engine) (now : Instant) (source filename : String) : Prop where
  /-- Without isolation an analysis fails if some rule that is on does, and only then. -/
  aborts_iff : (∃ err, (e.isolating false).analyze now false source filename = .error err) ↔
    ∃ r ∈ e.registry.enabledRules, Faults (contextOf source filename) r
  /-- The error is that of the first such rule in the order of registration. -/
  aborts_first : ∀ err, (e.isolating false).analyze now false source filename = .error err ↔
    FirstFault (contextOf source filename) e.registry.enabledRules err
  /-- With isolation it succeeds. Its findings are the segments of the rules that are on, in the order of
  registration, and those of the compiler last. A failing rule has one finding for its segment, and the
  segments of the others are what is found with the failing rules switched off. -/
  isolates : ∃ (r : Review) (segs : List Segment),
    (e.isolating true).analyze now false source filename = .ok r ∧
    segs.map (·.rule) = e.registry.enabledRules ∧
    r.issues = some (findingsOf segs ++ e.compilerFindings source filename) ∧
    (∀ s ∈ segs, ∀ fault, s.rule.apply (contextOf source filename) = .error fault →
      ∃ f, s.findings = [f] ∧ StandsFor s.rule.name fault f) ∧
    (∀ s ∈ segs, ¬ Faults (contextOf source filename) s.rule →
      s.rule.apply (contextOf source filename) = .ok s.findings) ∧
    ∀ isolate, ∃ r', ((e.withoutFaults source filename).isolating isolate).analyze now false
        source filename = .ok r' ∧
      r'.issues = some (findingsOf (soundSegments source filename segs) ++
        e.compilerFindings source filename)
  /-- If no rule that is on fails, the two settings give the same review. -/
  agrees : (∀ r ∈ e.registry.enabledRules, ¬ Faults (contextOf source filename) r) →
    ∃ r, (e.isolating false).analyze now false source filename = .ok r ∧
      (e.isolating true).analyze now false source filename = .ok r

/-- **Faults of rules** end an analysis or are reported in it, as the engine is set, whatever rules are
registered and which of them fail. -/
theorem treatsFaults (e : Engine) (now : Instant) (source filename : String) :
    e.TreatsFaults now source filename where
  aborts_iff := by
    simp only [analyze_eq_error_iff]
    exact exists_firstFault_iff
  aborts_first _ := analyze_eq_error_iff
  isolates := by
    obtain ⟨segs, hrun⟩ := e.exists_isRun source filename
    refine ⟨_, segs, analyze_eq_ok_iff.mpr ⟨by simp, segs, hrun, rfl⟩, hrun.rules_eq, rfl, ?_, ?_, ?_⟩
    · intro s hs fault hfault
      exact (hrun.contributes s hs).of_fault hfault
    · intro s hs hok
      exact (hrun.contributes s hs).findings_eq hok
    · intro isolate
      exact ⟨_, analyze_eq_ok_iff.mpr ⟨by simp, _, hrun.withoutFaults isolate, rfl⟩, rfl⟩
  agrees := by
    intro hok
    cases hanalyze : (e.isolating false).analyze now false source filename with
    | error err =>
      obtain ⟨r, hr, hfaults⟩ := exists_firstFault_iff.mp ⟨err, analyze_eq_error_iff.mp hanalyze⟩
      exact absurd hfaults (hok r hr)
    | ok r =>
      obtain ⟨-, segs, hrun, rfl⟩ := analyze_eq_ok_iff.mp hanalyze
      exact ⟨_, rfl, analyze_eq_ok_iff.mpr ⟨by simp, segs, hrun.isolated true, rfl⟩⟩

end JavaReview.Engine
