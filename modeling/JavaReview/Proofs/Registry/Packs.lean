import JavaReview.Proofs.Basic
import JavaReview.Proofs.Registry.Calls
import JavaReview.Proofs.Rule.Compiling
import Mathlib.Order.Bounds.Basic

/-!
Registration of packs. All rules of a pack are compiled first, and the first one with a fault decides the
outcome, whatever the names are. If there is none, the rules are added up to the first whose name is taken
in the registry or by an earlier rule of the pack, which is as far as the names are new and distinct
(`Registry.addsPrefix_registerAll`).
-/

namespace JavaReview

/-! ## Names that are new -/

namespace Registry

variable {r r' : Registry}

/-- Names that are not registered, and no two of them the same. -/
structure IsFresh (r : Registry) (names : List String) : Prop where
  unregistered : ∀ name ∈ names, name ∉ r.names
  distinct : names.Nodup

theorem isFresh_nil (r : Registry) : r.IsFresh [] := ⟨by simp, List.nodup_nil⟩

theorem IsFresh.sublist {names names' : List String} (h : r.IsFresh names)
    (hsub : names'.Sublist names) : r.IsFresh names' where
  unregistered name hname := h.unregistered name (hsub.subset hname)
  distinct := h.distinct.sublist hsub

/-- A name is new with others if the others are new once it is registered. -/
theorem isFresh_cons_iff {name : String} {names : List String} (hnames : r'.names = r.names ++ [name]) :
    r.IsFresh (name :: names) ↔ name ∉ r.names ∧ r'.IsFresh names := by
  constructor
  · intro h
    obtain ⟨hnotin, hdistinct⟩ := List.nodup_cons.mp h.distinct
    refine ⟨h.unregistered name List.mem_cons_self, ⟨fun m hm => ?_, hdistinct⟩⟩
    rw [hnames, List.mem_append, List.mem_singleton, not_or]
    refine ⟨h.unregistered m (List.mem_cons_of_mem _ hm), ?_⟩
    rintro rfl
    exact hnotin hm
  · rintro ⟨hname, h⟩
    have hnew : ∀ m ∈ names, m ∉ r.names ∧ m ≠ name := by
      intro m hm
      have hnotin := h.unregistered m hm
      rw [hnames, List.mem_append, List.mem_singleton, not_or] at hnotin
      exact hnotin
    refine ⟨List.forall_mem_cons.mpr ⟨hname, fun m hm => (hnew m hm).1⟩, List.nodup_cons.mpr ⟨?_, h.distinct⟩⟩
    intro hmem
    exact (hnew name hmem).2 rfl

/-! ## Adding rules until one is refused -/

/-- The names of entries. -/
def entryNames (es : List RuleEntry) : List String := es.map (·.rule.name)

/-- Entries that were added to a registry up to one that was refused for its name, if there is one. -/
structure AddsPrefix (r : Registry) (es : List RuleEntry) (r' : Registry) (n : Nat)
    (refusal : Option RegisterError) : Prop where
  entries_eq : r'.entries = r.entries ++ es.take n
  fresh : r.IsFresh (entryNames (es.take n))
  stops : (n = es.length ∧ refusal = none) ∨
    ∃ e, es[n]? = some e ∧ refusal = some (.duplicate e.rule.name) ∧
      ¬ r.IsFresh (entryNames (es.take (n + 1)))

theorem addsPrefix_nil (r : Registry) : r.AddsPrefix [] r 0 none where
  entries_eq := (List.append_nil _).symm
  fresh := isFresh_nil r
  stops := .inl ⟨rfl, rfl⟩

theorem addsPrefix_of_mem {e : RuleEntry} (h : e.rule.name ∈ r.names) (es : List RuleEntry) :
    r.AddsPrefix (e :: es) r 0 (some (.duplicate e.rule.name)) where
  entries_eq := (List.append_nil _).symm
  fresh := isFresh_nil r
  stops := .inr ⟨e, rfl, rfl, fun hfresh => hfresh.unregistered _ List.mem_cons_self h⟩

theorem AddsPrefix.cons {e : RuleEntry} {es : List RuleEntry} {r'' : Registry} {n : Nat}
    {refusal : Option RegisterError} (hentries : r'.entries = r.entries ++ [e])
    (hname : e.rule.name ∉ r.names) (h : r'.AddsPrefix es r'' n refusal) :
    r.AddsPrefix (e :: es) r'' (n + 1) refusal := by
  have hnames : r'.names = r.names ++ [e.rule.name] := by
    rw [names, hentries, List.map_append]
    rfl
  refine ⟨?_, (isFresh_cons_iff hnames).mpr ⟨hname, h.fresh⟩, ?_⟩
  · rw [h.entries_eq, hentries, List.append_assoc]
    rfl
  · rcases h.stops with ⟨hn, hrefusal⟩ | ⟨e', he', hrefusal, hstale⟩
    · exact .inl ⟨congrArg (· + 1) hn, hrefusal⟩
    · refine .inr ⟨e', he', hrefusal, fun hfresh => hstale ?_⟩
      exact ((isFresh_cons_iff hnames).mp hfresh).2

theorem addsPrefix_registerAll (r : Registry) {es : List RuleEntry}
    (hes : ∀ e ∈ es, e.rule.name ≠ "") :
    r.AddsPrefix es (r.registerAll es).1 (r.registerAll es).2.1 (r.registerAll es).2.2 := by
  induction es generalizing r with
  | nil => exact addsPrefix_nil r
  | cons e es ih =>
    obtain ⟨hempty, hrest⟩ := List.forall_mem_cons.mp hes
    rw [registerAll]
    rcases register_cases r e.rule e.enabled with ⟨hname, -⟩ | ⟨-, hdup, h⟩ | ⟨-, hdup, r', h, hentries⟩
    · exact absurd hname hempty
    · rw [h]
      exact addsPrefix_of_mem hdup es
    · rw [h]
      exact (ih r' hrest).cons hentries hdup

/-- A rule that reports nothing, under a name. -/
def silentEntry (name : String) (on : Bool) : RuleEntry := ⟨.ofLines name "" fun _ => [], on⟩

-- The third name is taken by the first entry, and the fourth would be taken before.
example : (default.registerAll [silentEntry "a" false, silentEntry "b" true, silentEntry "a" true,
    silentEntry "long-line" true]).2 = (2, some (.duplicate "a")) := by decide

/-- No more entries could have been added. -/
theorem AddsPrefix.isGreatest {es : List RuleEntry} {n : Nat} {refusal : Option RegisterError}
    (h : r.AddsPrefix es r' n refusal) :
    IsGreatest {k | k ≤ es.length ∧ r.IsFresh (entryNames (es.take k))} n := by
  rcases h.stops with ⟨hn, -⟩ | ⟨e, he, -, hstale⟩
  · refine ⟨⟨Nat.le_of_eq hn, h.fresh⟩, ?_⟩
    rintro k ⟨hk, -⟩
    rwa [hn]
  · obtain ⟨hlt, -⟩ := List.getElem?_eq_some_iff.mp he
    refine ⟨⟨Nat.le_of_lt hlt, h.fresh⟩, ?_⟩
    rintro k ⟨-, hk⟩
    refine Nat.le_of_not_lt fun hnk => hstale (hk.sublist ?_)
    exact (List.take_prefix_take_left hnk).sublist.map _

end Registry

namespace RulePack

theorem entryNames_of_forall₂ {ss : List PatternSource} {es : List RuleEntry}
    (h : List.Forall₂ WritesEntry ss es) :
    Registry.entryNames es = ss.map (·.name) ∧ ∀ e ∈ es, e.rule.name ≠ "" := by
  induction h with
  | nil => exact ⟨rfl, by simp⟩
  | cons hwrites _ ih =>
    obtain ⟨hname, hne⟩ := name_of_writesEntry hwrites
    refine ⟨?_, List.forall_mem_cons.mpr ⟨hne, ih.2⟩⟩
    rw [Registry.entryNames, List.map_cons, List.map_cons, hname, ← ih.1]
    rfl

/-! ## Outcomes -/

/-- What comes of registering the rules of a pack: the registry then, how many were registered, and what
stopped the registration. -/
inductive Outcome (r : Registry) (ss : List PatternSource) :
    Registry × Nat × Option PackError → Prop
  /-- A rule has a fault and no rule above it has one: nothing is registered. -/
  | faulty {before after : List PatternSource} {s : PatternSource} {fault : PatternFault} :
      ss = before ++ s :: after → (∀ s' ∈ before, ∃ rule, s'.Compiles (.ok rule)) →
      s.Compiles (.error fault) → Outcome r ss (r, 0, some (.badRule s.name fault))
  /-- No rule has a fault: they are registered as far as their names are new and distinct. -/
  | added {es : List RuleEntry} {r' : Registry} {n : Nat} {err : Option PackError} :
      List.Forall₂ WritesEntry ss es → r'.entries = r.entries ++ es.take n →
      IsGreatest {k | k ≤ ss.length ∧ r.IsFresh ((ss.take k).map (·.name))} n →
      (err = none ↔ n = ss.length) →
      (n ≠ ss.length → ∃ s, ss[n]? = some s ∧ err = some (.refused (.duplicate s.name))) →
      Outcome r ss (r', n, err)

theorem outcome_of_forall₂ (r : Registry) {ss : List PatternSource} {es : List RuleEntry}
    (h : List.Forall₂ WritesEntry ss es) : Outcome r ss
      ((r.registerAll es).1, (r.registerAll es).2.1, (r.registerAll es).2.2.map .refused) := by
  obtain ⟨hnames, hne⟩ := entryNames_of_forall₂ h
  have hadds := r.addsPrefix_registerAll hne
  have htake (k : Nat) : Registry.entryNames (es.take k) = (ss.take k).map (·.name) := by
    rw [Registry.entryNames, List.map_take, ← Registry.entryNames, hnames, List.map_take]
  refine .added h hadds.entries_eq ?_ ?_ ?_
  · simp only [← htake, h.length_eq]
    exact hadds.isGreatest
  · rw [Option.map_eq_none_iff, h.length_eq]
    rcases hadds.stops with ⟨hn, hnone⟩ | ⟨e, he, hsome, -⟩
    · exact ⟨fun _ => hn, fun _ => hnone⟩
    · obtain ⟨hlt, -⟩ := List.getElem?_eq_some_iff.mp he
      rw [hsome]
      exact iff_of_false (Option.some_ne_none _) (Nat.ne_of_lt hlt)
  · intro hn
    rcases hadds.stops with ⟨hall, -⟩ | ⟨e, he, hsome, -⟩
    · exact absurd (hall.trans h.length_eq.symm) hn
    · obtain ⟨s, hs, hname⟩ : ∃ s, ss[(r.registerAll es).2.1]? = some s ∧ s.name = e.rule.name := by
        have hnth := congrArg (·[(r.registerAll es).2.1]?) hnames
        simp only [Registry.entryNames, List.getElem?_map, he, Option.map_some] at hnth
        exact Option.map_eq_some_iff.mp hnth.symm
      refine ⟨s, hs, ?_⟩
      rw [hsome, hname]
      rfl

theorem entries_of_sources {text : String} {ss : List PatternSource} (h : sources text = .ok ss) :
    entries text = ss.mapM (·.entry) := by
  simp only [entries, h, Except.mapError, bind, Except.bind]

/-- **Packs register all or nothing of what compiles**, and then as many rules as have names of their
own. -/
theorem register_outcome (r : Registry) (text : String) (ss : List PatternSource)
    (h : sources text = .ok ss) : Outcome r ss (register r text) := by
  unfold register
  rw [entries_of_sources h]
  rcases mapM_entry_cases ss with ⟨es, hes, hall⟩ | ⟨before, s, after, fault, hss, hbefore, hfault, herror⟩
  · rw [hes]
    exact outcome_of_forall₂ r hall
  · rw [herror]
    exact .faulty hss hbefore hfault

/-- A pack with two rules that lack fields, the second of them even a name. -/
def unfinished : String := "rules: [\x7bname: a\x7d, \x7b\x7d]"

/-- A pack with a rule that is written once and stands there twice. -/
def repeated : String :=
  "rules: [&r \x7bname: a, pattern: x, title: t, category: error, severity: low\x7d, *r]"

/-- The rule of the pack that repeats it. -/
def repeatedSource : PatternSource where
  name := "a"
  pattern := "x"
  title := "t"
  category := "error"
  severity := "low"

/-- Nothing is registered of the first pack, and of the second the rule without its repetition. -/
theorem register_outcome_unfinished :
    (sources unfinished = .ok [{ name := "a" }, {}] ∧
      Outcome .default [{ name := "a" }, {}] (register .default unfinished) ∧
      (register .default unfinished).2.1 = 0) ∧
    sources repeated = .ok [repeatedSource, repeatedSource] ∧
      Outcome .default [repeatedSource, repeatedSource] (register .default repeated) ∧
      (register .default repeated).2.1 = 1 ∧
      (register .default repeated).2.2.map PackError.message = some "duplicate rule name: \"a\"" := by
  have hunfinished : sources unfinished = .ok [{ name := "a" }, {}] :=
    toOption_eq_some_iff.mp (by decide +kernel)
  have hrepeated : sources repeated = .ok [repeatedSource, repeatedSource] :=
    toOption_eq_some_iff.mp (by decide +kernel)
  exact ⟨⟨hunfinished, register_outcome .default unfinished _ hunfinished, by decide +kernel⟩,
    hrepeated, register_outcome .default repeated _ hrepeated, by decide +kernel, by decide +kernel⟩

end RulePack

end JavaReview
