import JavaReview.RulePack
import Mathlib.Data.List.Forall2

/-!
Rules of packs, compiled. What a rule compiles to is decided by the first check that it fails
(`PatternSource.compiles_iff`), and what a pack compiles to by its first rule with a fault
(`RulePack.mapM_entry_cases`).
-/

namespace JavaReview

namespace PatternSource

/-- What becomes of a rule as a pack writes it: the first check that it fails decides its fault. -/
inductive Compiles (s : PatternSource) : Except PatternFault Rule → Prop
  | incomplete : s.isComplete = false → Compiles s (.error .incomplete)
  | unknownCategory : s.isComplete = true → Category.parse? s.category = none →
      Compiles s (.error (.unknownCategory s.category))
  | unknownSeverity {category : Category} : s.isComplete = true →
      Category.parse? s.category = some category → Severity.parse? s.severity = none →
      Compiles s (.error (.unknownSeverity s.severity))
  | badPattern {category : Category} {severity : Severity} {e : Pattern.Error} :
      s.isComplete = true → Category.parse? s.category = some category →
      Severity.parse? s.severity = some severity → s.parse s.pattern = .error e →
      Compiles s (.error (.badPattern e))
  | badExclude {category : Category} {severity : Severity} {pattern : Pattern.Matcher}
      {e : Pattern.Error} : s.isComplete = true → Category.parse? s.category = some category →
      Severity.parse? s.severity = some severity → s.parse s.pattern = .ok pattern →
      s.exclude ≠ "" → s.parse s.exclude = .error e → Compiles s (.error (.badExclude e))
  | plain {category : Category} {severity : Severity} {pattern : Pattern.Matcher} :
      s.isComplete = true → Category.parse? s.category = some category →
      Severity.parse? s.severity = some severity → s.parse s.pattern = .ok pattern → s.exclude = "" →
      Compiles s (.ok (s.toRule ⟨s.title, s.description, s.suggestion, category, severity⟩ pattern none))
  | excluding {category : Category} {severity : Severity} {pattern exclude : Pattern.Matcher} :
      s.isComplete = true → Category.parse? s.category = some category →
      Severity.parse? s.severity = some severity → s.parse s.pattern = .ok pattern → s.exclude ≠ "" →
      s.parse s.exclude = .ok exclude →
      Compiles s (.ok (s.toRule ⟨s.title, s.description, s.suggestion, category, severity⟩ pattern
        (some exclude)))

theorem Compiles.eq_compile {s : PatternSource} {x : Except PatternFault Rule} (h : s.Compiles x) :
    s.compile = x := by
  cases h with
  | incomplete hcomplete =>
    simp only [compile, hcomplete]
    rfl
  | unknownCategory hcomplete hcategory =>
    simp only [compile, hcomplete, hcategory]
    rfl
  | unknownSeverity hcomplete hcategory hseverity =>
    simp only [compile, hcomplete, hcategory, hseverity]
    rfl
  | badPattern hcomplete hcategory hseverity hpattern =>
    simp only [compile, hcomplete, hcategory, hseverity, hpattern]
    rfl
  | badExclude hcomplete hcategory hseverity hpattern hne hexclude =>
    simp only [compile, hcomplete, hcategory, hseverity, hpattern, if_neg hne, hexclude]
    rfl
  | plain hcomplete hcategory hseverity hpattern hnone =>
    simp only [compile, hcomplete, hcategory, hseverity, hpattern, if_pos hnone]
    rfl
  | excluding hcomplete hcategory hseverity hpattern hne hexclude =>
    simp only [compile, hcomplete, hcategory, hseverity, hpattern, if_neg hne, hexclude]
    rfl

theorem exists_compiles (s : PatternSource) : ∃ x, s.Compiles x := by
  cases hcomplete : s.isComplete with
  | false => exact ⟨_, .incomplete hcomplete⟩
  | true =>
    cases hcategory : Category.parse? s.category with
    | none => exact ⟨_, .unknownCategory hcomplete hcategory⟩
    | some category =>
      cases hseverity : Severity.parse? s.severity with
      | none => exact ⟨_, .unknownSeverity hcomplete hcategory hseverity⟩
      | some severity =>
        cases hpattern : s.parse s.pattern with
        | error e => exact ⟨_, .badPattern hcomplete hcategory hseverity hpattern⟩
        | ok pattern =>
          by_cases hnone : s.exclude = ""
          · exact ⟨_, .plain hcomplete hcategory hseverity hpattern hnone⟩
          · cases hexclude : s.parse s.exclude with
            | error e => exact ⟨_, .badExclude hcomplete hcategory hseverity hpattern hnone hexclude⟩
            | ok exclude => exact ⟨_, .excluding hcomplete hcategory hseverity hpattern hnone hexclude⟩

theorem compiles_iff {s : PatternSource} {x : Except PatternFault Rule} :
    s.Compiles x ↔ s.compile = x := by
  refine ⟨Compiles.eq_compile, ?_⟩
  rintro rfl
  obtain ⟨y, hy⟩ := s.exists_compiles
  rw [hy.eq_compile]
  exact hy

end PatternSource

namespace RulePack

/-- A rule as a pack writes it, and the entry that it is registered as. -/
def WritesEntry (s : PatternSource) (e : RuleEntry) : Prop :=
  s.Compiles (.ok e.rule) ∧ e.enabled = !s.disabled

theorem entry_eq_ok_iff {s : PatternSource} {e : RuleEntry} : s.entry = .ok e ↔ WritesEntry s e := by
  rw [WritesEntry, PatternSource.compiles_iff, PatternSource.entry]
  cases e with
  | mk rule on => cases s.compile <;> simp [eq_comm]

theorem entry_eq_error_iff {s : PatternSource} {e : PackError} :
    s.entry = .error e ↔ ∃ fault, s.Compiles (.error fault) ∧ e = .badRule s.name fault := by
  simp only [PatternSource.compiles_iff, PatternSource.entry]
  cases s.compile <;> simp [eq_comm]

theorem name_of_writesEntry {s : PatternSource} {e : RuleEntry} (h : WritesEntry s e) :
    e.rule.name = s.name ∧ e.rule.name ≠ "" := by
  obtain ⟨hcompiles, -⟩ := h
  have hname (hcomplete : s.isComplete = true) : s.name ≠ "" := by
    simp only [PatternSource.isComplete, Bool.and_eq_true, decide_eq_true_eq, and_assoc] at hcomplete
    exact hcomplete.1
  generalize hrule : e.rule = rule at hcompiles
  cases hcompiles with
  | plain hcomplete => exact ⟨rfl, hname hcomplete⟩
  | excluding hcomplete => exact ⟨rfl, hname hcomplete⟩

/-- The entries of a pack are those of its rules, or its first rule with a fault decides. -/
theorem mapM_entry_cases (ss : List PatternSource) :
    (∃ es, ss.mapM (·.entry) = .ok es ∧ List.Forall₂ WritesEntry ss es) ∨
    ∃ before s after fault, ss = before ++ s :: after ∧
      (∀ s' ∈ before, ∃ rule, s'.Compiles (.ok rule)) ∧ s.Compiles (.error fault) ∧
      ss.mapM (·.entry) = .error (.badRule s.name fault) := by
  induction ss with
  | nil => exact .inl ⟨[], rfl, .nil⟩
  | cons s ss ih =>
    rw [List.mapM_cons]
    cases hentry : s.entry with
    | error e =>
      obtain ⟨fault, hfault, rfl⟩ := entry_eq_error_iff.mp hentry
      exact .inr ⟨[], s, ss, fault, rfl, by simp, hfault, rfl⟩
    | ok e =>
      have hwrites := entry_eq_ok_iff.mp hentry
      rcases ih with ⟨es, hes, hall⟩ | ⟨before, s', after, fault, rfl, hbefore, hfault, herror⟩
      · refine .inl ⟨e :: es, ?_, .cons hwrites hall⟩
        rw [hes]
        rfl
      · refine .inr ⟨s :: before, s', after, fault, rfl, ?_, hfault, ?_⟩
        · exact List.forall_mem_cons.mpr ⟨⟨_, hwrites.1⟩, hbefore⟩
        · rw [herror]
          rfl

end RulePack

end JavaReview
