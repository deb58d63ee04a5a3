import JavaReview.Proofs.Engine.Segments
import JavaReview.Proofs.Rule.Lines
import JavaReview.Proofs.Store.Additions
import JavaReview.Proofs.Store.Reloading

/-!
Counts that agree with the findings. A tally leaves out findings of an unknown category, so the total of
a review is the number of its findings only if all of them have a known one. The rules that are built in
and those of packs see to that, and so do the finding for a fault and the compiler findings; waivers, saving
and loading keep it (`Engine.staysTallied`).
-/

namespace JavaReview

/-! ## Totals -/

namespace Counts

theorem ofCategory_cons (c : Category) (f : Finding) (fs : List Finding) :
    ofCategory c (f :: fs) = ofCategory c fs + if f.category = c then 1 else 0 := by
  simp only [ofCategory, List.countP_cons, decide_eq_true_eq]
  split <;> simp

/-- Nothing is left out of a tally if every category is known. -/
theorem sum_tally {fs : List Finding} (h : ∀ f ∈ fs, f.category ∈ Category.known) :
    (tally fs).errors + (tally fs).warnings + (tally fs).optimizations + (tally fs).security =
      fs.length := by
  induction fs with
  | nil => rfl
  | cons f fs ih =>
    rw [List.forall_mem_cons] at h
    have hone : ((if f.category = .error then 1 else 0) + (if f.category = .warning then 1 else 0) +
        (if f.category = .optimization then 1 else 0) +
        (if f.category = .security then 1 else 0) : Int) = 1 := by
      have hknown := h.1
      simp only [Category.known, List.mem_cons, List.not_mem_nil, or_false] at hknown
      rcases hknown with hc | hc | hc | hc <;> rw [hc] <;> decide
    have hrest := ih h.2
    simp only [tally, ofCategory_cons, List.length_cons] at hrest ⊢
    omega

theorem total_tally {fs : List Finding} (h : ∀ f ∈ fs, f.category ∈ Category.known)
    (hfits : fitsWord fs.length = true) : (tally fs).total = fs.length := by
  rw [total, sum_tally h]
  obtain ⟨-, hmost⟩ := Bool.and_eq_true_iff.mp hfits
  have hmost := of_decide_eq_true hmost
  rw [leastWord] at hmost
  apply Int.bmod_eq_of_le_mul_two <;> simp only [wordValues] <;> omega

end Counts

/-- A finding that names its rule and has a known category and a known severity. -/
structure Finding.IsReported (f : Finding) : Prop where
  rule_ne : f.rule ≠ ""
  category_mem : f.category ∈ Category.known
  severity_mem : f.severity ∈ Severity.known

/-- A review whose counts agree with its findings. -/
structure Review.Tallied (r : Review) : Prop where
  counts_eq : r.counts = .tally r.findings
  sum_eq : r.counts.errors + r.counts.warnings + r.counts.optimizations + r.counts.security =
    r.findings.length
  /-- The total is the number of findings, as far as a word holds that. -/
  total_eq : fitsWord r.findings.length = true → r.counts.total = r.findings.length
  reported : ∀ f ∈ r.findings, f.IsReported

theorem Review.Tallied.of_reported {r : Review} (hcounts : r.counts = .tally r.findings)
    (h : ∀ f ∈ r.findings, f.IsReported) : r.Tallied where
  counts_eq := hcounts
  sum_eq := by
    rw [hcounts]
    exact Counts.sum_tally fun f hf => (h f hf).category_mem
  total_eq hfits := by
    rw [hcounts]
    exact Counts.total_tally (fun f hf => (h f hf).category_mem) hfits
  reported := h

/-! ## Registries -/

theorem RulePack.standard_of_forall₂ {ss : List PatternSource} {es : List RuleEntry}
    (h : List.Forall₂ WritesEntry ss es) : ∀ e ∈ es, e.rule.Standard := by
  induction h with
  | nil => simp
  | cons hwrites _ ih =>
    exact List.forall_mem_cons.mpr ⟨.pack (PatternSource.compiles_iff.mp hwrites.1), ih⟩

/-- A registry of rules that are built in or written in packs. -/
def Registry.Standard (r : Registry) : Prop := ∀ rule ∈ r.rules, rule.Standard

namespace Registry.Standard

variable {r r' : Registry}

theorem default : Registry.default.Standard := by
  intro rule hrule
  simp only [rules, Registry.default, List.map_map, Function.comp_def, List.map_id'] at hrule
  exact .builtin hrule

theorem setStates (h : r.Standard) (us : RuleUpdates) : (r.setStates us).Standard := by
  simpa [Registry.Standard, rules, Registry.setStates] using h

theorem register (h : r.Standard) {rule : Rule} {on : Bool} (hrule : rule.Standard)
    (hregister : r.register rule on = .ok r') : r'.Standard := by
  unfold Registry.register at hregister
  split at hregister
  · cases hregister
  · split at hregister
    · cases hregister
    · cases hregister
      intro rule' hrule'
      simp only [rules, List.map_append, List.map_cons, List.map_nil, List.mem_append,
        List.mem_singleton] at hrule'
      rcases hrule' with hold | rfl
      · exact h rule' hold
      · exact hrule

theorem registerAll (h : r.Standard) {es : List RuleEntry} (hes : ∀ e ∈ es, e.rule.Standard) :
    (r.registerAll es).1.Standard := by
  induction es generalizing r with
  | nil => exact h
  | cons e es ih =>
    rw [List.forall_mem_cons] at hes
    rw [Registry.registerAll]
    split
    · exact h
    next r' hregister => exact ih (h.register hes.1 hregister) hes.2

theorem registerPack (h : r.Standard) (text : String) : (RulePack.register r text).1.Standard := by
  unfold RulePack.register
  split
  · exact h
  next es hes =>
    obtain ⟨ss, -, hmap⟩ := bind_eq_ok_iff.mp hes
    rcases RulePack.mapM_entry_cases ss with ⟨es', hes', hall⟩ | ⟨_, _, _, _, -, -, -, herror⟩
    · rw [hmap] at hes'
      cases hes'
      exact h.registerAll (RulePack.standard_of_forall₂ hall)
    · rw [hmap] at herror
      cases herror

end Registry.Standard

/-! ## Findings of a run -/

namespace Engine

theorem reported_of_contributes {isolate : Bool} {ctx : Context} {rule : Rule} {fs : List Finding}
    (h : Contributes isolate ctx rule fs) (hrule : rule.Standard) (hname : rule.name ≠ "") :
    ∀ f ∈ fs, f.IsReported := by
  cases h with
  | findings happly =>
    obtain ⟨gs, hcheck, hgs⟩ := hrule.known ctx
    rw [Rule.apply, hcheck] at happly
    cases happly
    intro f hf
    obtain ⟨g, hg, rfl⟩ := List.mem_map.mp hf
    have hknown := (g.isKnown_stamp rule.name).mpr (hgs g hg)
    exact ⟨g.rule_stamp_ne rule.name hname, hknown.1, hknown.2⟩
  | fault happly hisolate =>
    rintro f hf
    rw [List.mem_singleton.mp hf]
    exact ⟨hname, (by decide : Category.warning ∈ Category.known),
      (by decide : Severity.low ∈ Severity.known)⟩

theorem reported_normalize (f : Finding) : (Diagnostic.normalize f).IsReported := by
  have hknown : (Diagnostic.normalize f).IsKnown := (Finding.isKnown_stamp _ _).mpr
    ⟨(by decide : Category.error ∈ Category.known), (by decide : Severity.high ∈ Severity.known)⟩
  exact ⟨Finding.rule_stamp_ne _ _ (by decide), hknown.1, hknown.2⟩

theorem reported_compilerFindings (e : Engine) (source filename : String) :
    ∀ f ∈ e.compilerFindings source filename, f.IsReported := by
  unfold compilerFindings Diagnostic.findings
  split
  · simp
  · split
    · simp
    next fs _ =>
      intro f hf
      obtain ⟨g, -, rfl⟩ := List.mem_map.mp hf
      exact reported_normalize g

theorem standard_of_mem_enabledRules {r : Registry} (h : r.Standard) {rule : Rule}
    (hrule : rule ∈ r.enabledRules) : rule.Standard ∧ rule.name ≠ "" := by
  obtain ⟨entry, hentry, rfl⟩ := List.mem_map.mp hrule
  have hmem := List.mem_of_mem_filter hentry
  exact ⟨h _ (List.mem_map_of_mem hmem), r.name_ne_empty entry hmem⟩

theorem tallied_analyze {e : Engine} (h : e.registry.Standard) {now : Instant} {cancelled : Bool}
    {source filename : String} {r : Review} (hr : e.analyze now cancelled source filename = .ok r) :
    r.Tallied := by
  obtain ⟨-, segs, hrun, rfl⟩ := analyze_eq_ok_iff.mp hr
  refine .of_reported rfl fun f hf => ?_
  rcases List.mem_append.mp hf with hf | hf
  · obtain ⟨s, hs, hf⟩ := List.mem_flatMap.mp hf
    have hmem : s.rule ∈ e.registry.enabledRules := hrun.rules_eq ▸ List.mem_map_of_mem hs
    obtain ⟨hrule, hname⟩ := standard_of_mem_enabledRules h hmem
    exact reported_of_contributes (hrun.contributes s hs) hrule hname f hf
  · exact reported_compilerFindings e source filename f hf

theorem exists_analyze {e : Engine} (h : e.registry.Standard) (now : Instant)
    (source filename : String) : ∃ r, e.analyze now false source filename = .ok r := by
  have hcontributes : ∀ rule ∈ e.registry.enabledRules, ∃ fs, Contributes e.isolateFaults
      (.ofSource source (Review.filenameOr filename)) rule fs := by
    intro rule hrule
    obtain ⟨fs, hcheck, -⟩ := (standard_of_mem_enabledRules h hrule).1.known
      (.ofSource source (Review.filenameOr filename))
    exact ⟨_, .findings (congrArg (Except.map _) hcheck)⟩
  obtain ⟨segs, hrun⟩ := exists_isRun_of_contributes hcontributes
  exact ⟨_, analyze_eq_ok_iff.mpr ⟨by simp, segs, hrun, rfl⟩⟩

end Engine

/-! ## Waivers and stores -/

theorem Store.forall_mem_withIds {P : Finding → Prop} (hP : ∀ f n, P f → P { f with id := n })
    {fs : List Finding} (h : ∀ f ∈ fs, P f) (first : Int) : ∀ f ∈ withIds first fs, P f := by
  induction fs generalizing first with
  | nil => simp [withIds]
  | cons f fs ih =>
    rw [List.forall_mem_cons] at h
    exact List.forall_mem_cons.mpr ⟨hP f first h.1, ih h.2 (first + 1)⟩

namespace Review.Tallied

variable {r : Review}

theorem applyWaivers (h : r.Tallied) (ws : List Waiver) : (r.applyWaivers ws).Tallied := by
  refine .of_reported ?_ ?_
  · unfold Review.applyWaivers
    split
    · exact h.counts_eq
    · rfl
  · rw [findings_applyWaivers]
    exact fun f hf => h.reported f (List.mem_of_mem_filter hf)

theorem nextFindings (h : r.Tallied) (s : Store) : ∀ f ∈ s.nextFindings r, f.IsReported :=
  Store.forall_mem_withIds (fun _ _ hf => ⟨hf.rule_ne, hf.category_mem, hf.severity_mem⟩) h.reported _

theorem save (h : r.Tallied) {s s' : Store} {now : Instant} {saved : Review}
    (hsave : s.save now r = .ok (s', saved)) : saved.Tallied := by
  obtain ⟨-, -, hresult⟩ := Store.save_eq_ok_iff.mp hsave
  cases hresult
  refine .of_reported ?_ ?_
  · rw [Store.findings_savedReview]
    exact (Store.tally_withIds _ _).symm
  · rw [Store.findings_savedReview]
    exact h.nextFindings s

end Review.Tallied

/-- A review that was saved can be loaded as long as the store is open, with the counts and the findings
of saving. -/
theorem Store.Reachable.load_saved {s s' : Store} (hs : s.Reachable) {now : Instant} {r saved : Review}
    (hsave : s.save now r = .ok (s', saved)) (ops : List Store.Operation)
    (hopen : (s'.performAll ops).isOpen = true) :
    ∃ r', (s'.performAll ops).load saved.id = .ok r' ∧ r'.counts = .tally r'.findings ∧
      r'.findings = s.nextFindings r := by
  obtain ⟨log, hlog⟩ := hs.exists_holds
  obtain ⟨-, -, hresult⟩ := save_eq_ok_iff.mp hsave
  cases hresult
  obtain ⟨more, hlater⟩ := (hlog.withReview now r).performAll ops
  have hmem : ⟨s.nextRow now r, s.nextFindings r⟩ ∈
      log ++ [⟨s.nextRow now r, s.nextFindings r⟩] ++ more := by simp
  have hfindings : (if (s.nextFindings r).isEmpty then none else some (s.nextFindings r)).getD [] =
      s.nextFindings r := by
    cases s.nextFindings r <;> rfl
  refine ⟨_, hlater.load_eq hmem hopen, ?_, hfindings⟩
  rw [Review.findings, hfindings]
  exact hlater.counts_eq _ hmem

namespace Review

/-- What can become of a review: waivers are applied to it, and it is saved in a store and later loaded
from there. -/
inductive Becomes (r : Review) : Review → Prop
  | self : Becomes r r
  | waived {r' : Review} (ws : List Waiver) : Becomes r r' → Becomes r (r'.applyWaivers ws)
  | saved {r' saved : Review} {s s' : Store} {now : Instant} : Becomes r r' →
      s.save now r' = .ok (s', saved) → Becomes r saved
  | loaded {r' saved r'' : Review} {s s' : Store} {now : Instant} (ops : List Store.Operation) :
      Becomes r r' → s.Reachable → s.save now r' = .ok (s', saved) →
      (s'.performAll ops).load saved.id = .ok r'' → Becomes r r''

theorem Tallied.becomes {r r' : Review} (h : r.Tallied) (hr' : r.Becomes r') : r'.Tallied := by
  induction hr' with
  | self => exact h
  | waived ws _ ih => exact ih.applyWaivers ws
  | saved _ hsave ih => exact ih.save hsave
  | loaded ops _ hs hsave hload ih =>
    obtain ⟨hopen, -⟩ := Store.load_eq_ok_iff.mp hload
    obtain ⟨r'', hload', hcounts, hfindings⟩ := hs.load_saved hsave ops hopen
    rw [hload] at hload'
    cases hload'
    refine .of_reported hcounts ?_
    rw [hfindings]
    exact ih.nextFindings _

end Review

namespace Engine

/-- Reviews of a text whose counts agree with their findings from the analysis on. -/
structure StaysTallied (e : Engine) (now : Instant) (source filename : String) : Prop where
  returns : ∃ r, e.analyze now false source filename = .ok r
  tallied : ∀ cancelled r, e.analyze now cancelled source filename = .ok r →
    ∀ r', r.Becomes r' → r'.Tallied
  /-- A review is saved in every store that is open for writing, and loaded as long as it is open. -/
  kept : ∀ (s : Store) (r : Review) (time : Instant), s.Reachable → s.isOpen = true →
    s.isWritable = true → ∃ s' saved, s.save time r = .ok (s', saved) ∧
      ∀ ops, (s'.performAll ops).isOpen = true → ∃ r', (s'.performAll ops).load saved.id = .ok r'

/-- **Counts agree with findings** in every review that an engine makes with rules that are built in or
written in packs, whatever the compiler reports. -/
theorem staysTallied (e : Engine) (h : e.registry.Standard) (now : Instant)
    (source filename : String) : e.StaysTallied now source filename where
  returns := exists_analyze h now source filename
  tallied _ _ hr _ hr' := (tallied_analyze h hr).becomes hr'
  kept s r time hs hopen hwritable := by
    have hsave : s.save time r = .ok (s.withReview time r, s.savedReview time r) :=
      Store.save_eq_ok_iff.mpr ⟨hopen, hwritable, rfl⟩
    refine ⟨_, _, hsave, fun ops hopen' => ?_⟩
    obtain ⟨r', hload, -⟩ := hs.load_saved hsave ops hopen'
    exact ⟨r', hload⟩

/-- An engine with a pack, one rule off, and a compiler that reports with a category of its own. -/
def packed : Engine where
  registry :=
    let pack := String.intercalate "\n" ["rules:", "- name: raw-thread", "  pattern: new Thread",
      "  title: Raw thread", "  category: warning", "  severity: low"]
    (RulePack.register .default pack).1.setStates [("todo-comment", false)]
  compiler := some fun _ _ => .ok [{ line := 3, category := ⟨"NOTE"⟩ }]

theorem staysTallied_packed : packed.registry.Standard ∧
    packed.StaysTallied .zero "class A \x7b int b; // TODO" "A.java" :=
  have h : packed.registry.Standard := (Registry.Standard.default.registerPack _).setStates _
  ⟨h, staysTallied packed h _ _ _⟩

end Engine

end JavaReview
