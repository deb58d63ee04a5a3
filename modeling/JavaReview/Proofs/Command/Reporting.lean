import JavaReview.Proofs.Command.Analyzing
import JavaReview.Proofs.Report.Files
import JavaReview.Proofs.Source.Loading
import Mathlib.Data.String.Basic

/-!
The reports of a run of the command that reviews files. Each review is finished in turn: stored, if that is
wanted, and written (`Command.finishReviews_eq_ok`). Stored reviews have ids that count up, and others go
by the name of their file without its extension. Main statement: a run leaves a report of its own for each
file exactly if reviews are stored, or no two files have the same such name
(`Command.run_leavesReports_iff`).
-/

namespace JavaReview

/-! ## Names of source files -/

namespace Source

/-- A source file goes by a name that is not empty and has no slash. -/
theorem name_of_mem_load {tree : FileTree} {limit : Int} {paths : List String} {u : CompilationUnit}
    (h : u ∈ (load tree.disk limit paths).1) : u.name ≠ "" ∧ '/' ∉ u.name.toList := by
  obtain ⟨-, hname, hread⟩ := readUnit_eq_ok (mem_load_iff.mp h).2
  obtain ⟨c, hc, hne⟩ := FileTree.exists_component_of_read hread
  rw [hname]
  exact ⟨Path.base_ne_empty u.path, Path.slash_notMem_base hc hne⟩

end Source

@[simp] theorem Workspace.tree_keepStore (w : Workspace) (o : OpenedStore) :
    (w.keepStore o).tree = w.tree := by
  unfold keepStore
  split <;> rfl

namespace Command

open Job

namespace Job

variable {α β : Type} {x z : Session}

theorem runOn_bind_eq_ok {j : Job α} {k : α → Job β} {b : β} (h : runOn (j >>= k) x = (.ok b, z)) :
    ∃ a y, runOn j x = (.ok a, y) ∧ runOn (k a) y = (.ok b, z) := by
  simp only [runOn, ExceptT.run_bind, StateT.run_bind] at h ⊢
  cases hj : StateT.run (ExceptT.run j) x with
  | mk outcome y =>
    rw [hj] at h
    cases outcome with
    | ok a => exact ⟨a, y, rfl, h⟩
    | error f => cases h

theorem runOn_orFail_bind_eq_ok {ε : Type} {failure : ε → Failure} {r : Except ε α} {k : α → Job β} {b : β}
    (h : runOn (orFail failure r >>= k) x = (.ok b, z)) : ∃ a, r = .ok a ∧ runOn (k a) x = (.ok b, z) := by
  cases r with
  | ok a => exact ⟨a, rfl, h⟩
  | error e => cases h

end Job

/-! ## Finishing reviews -/

/-- A review without the waived findings, stored if that is wanted. -/
def Finishes (now : Instant) (wanted : Bool) (ws : List Waiver) (s : Store) (r finished : Review)
    (s' : Store) : Prop :=
  if wanted then s.save now (r.applyWaivers ws) = .ok (s', finished)
  else finished = r.applyWaivers ws ∧ s' = s

/-- Reviews that are finished one after the other. -/
inductive FinishesAll (now : Instant) (wanted : Bool) (ws : List Waiver) :
    Store → List Review → List Review → Store → Prop
  | nil (s : Store) : FinishesAll now wanted ws s [] [] s
  | cons {s s' s'' : Store} {r finished : Review} {rs done : List Review} :
      Finishes now wanted ws s r finished s' → FinishesAll now wanted ws s' rs done s'' →
      FinishesAll now wanted ws s (r :: rs) (finished :: done) s''

theorem saveReview_eq_ok {now : Instant} {wanted : Bool} {r finished : Review} {x y : Session}
    {ws : List Waiver} (h : runOn (saveReview now wanted (r.applyWaivers ws)) x = (.ok finished, y)) :
    Finishes now wanted ws x.store.store r finished y.store.store ∧ y.workspace = x.workspace := by
  unfold saveReview at h
  cases wanted with
  | false =>
    cases h
    exact ⟨⟨rfl, rfl⟩, rfl⟩
  | true =>
    rw [if_pos rfl, runOn_store_bind] at h
    obtain ⟨result, hsave, hrest⟩ := runOn_orFail_bind_eq_ok h
    cases hrest
    exact ⟨hsave, rfl⟩

theorem finishReview_eq_ok {e : Surroundings} {wanted : Bool} {dir : String} {format : Report.Format}
    {ws : List Waiver} {r finished : Review} {x y : Session}
    (h : runOn (finishReview e wanted dir format ws r) x = (.ok finished, y)) :
    Finishes e.now wanted ws x.store.store r finished y.store.store ∧
      ∃ path, Report.write x.workspace.tree dir format finished = (y.workspace.tree, .ok path) := by
  unfold finishReview at h
  obtain ⟨saved, z, hsave, h⟩ := runOn_bind_eq_ok h
  obtain ⟨hfinishes, hworkspace⟩ := saveReview_eq_ok hsave
  rw [runOn_tree_bind, hworkspace] at h
  generalize hwrite : Report.write x.workspace.tree dir format saved = result at h
  obtain ⟨written, outcome⟩ := result
  dsimp only at h
  rw [runOn_setTree_bind] at h
  obtain ⟨path, rfl, hrest⟩ := runOn_orFail_bind_eq_ok h
  cases hrest
  exact ⟨hfinishes, path, hwrite⟩

theorem finishReviews_eq_ok {e : Surroundings} {wanted : Bool} {dir : String} {format : Report.Format}
    {ws : List Waiver} {rs done : List Review} {x y : Session}
    (h : runOn (finishReviews e wanted dir format ws rs) x = (.ok done, y)) :
    FinishesAll e.now wanted ws x.store.store rs done y.store.store ∧
      ∃ places, Report.WritesAll dir format x.workspace.tree done places y.workspace.tree := by
  induction rs generalizing x done with
  | nil =>
    cases h
    exact ⟨.nil _, [], .nil _⟩
  | cons r rs ih =>
    unfold finishReviews at h
    obtain ⟨first, z, hfirst, h⟩ := runOn_bind_eq_ok h
    obtain ⟨rest, z', hrest, hdone⟩ := runOn_bind_eq_ok h
    cases hdone
    obtain ⟨hfinishes, path, hwrite⟩ := finishReview_eq_ok hfirst
    obtain ⟨hall, places, hwrites⟩ := ih hrest
    obtain ⟨made, place, hmade, hwritten⟩ := Report.write_eq_ok hwrite
    exact ⟨.cons hfinishes hall, place :: places, .cons hmade hwritten hwrites⟩

/-! ## What finished reviews are -/

section

variable {now : Instant} {wanted : Bool} {ws : List Waiver} {s s' : Store} {rs done : List Review}

theorem id_applyWaivers (r : Review) (ws : List Waiver) : (r.applyWaivers ws).id = r.id := by
  unfold Review.applyWaivers
  split <;> rfl

theorem filename_applyWaivers (r : Review) (ws : List Waiver) :
    (r.applyWaivers ws).filename = r.filename := by
  unfold Review.applyWaivers
  split <;> rfl

theorem source_applyWaivers (r : Review) (ws : List Waiver) : (r.applyWaivers ws).source = r.source := by
  unfold Review.applyWaivers
  split <;> rfl

/-- The ids of stored reviews count up from the next one. -/
theorem FinishesAll.ids (h : FinishesAll now true ws s rs done s') :
    (∀ d ∈ done, Store.nextId s.reviews ≤ d.id) ∧ done.Pairwise fun d d' => d.id < d'.id := by
  induction h with
  | nil s => exact ⟨nofun, .nil⟩
  | @cons s _ _ r finished rs done hfinishes _ ih =>
    obtain ⟨-, -, hresult⟩ := Store.save_eq_ok_iff.mp hfinishes
    cases hresult
    obtain ⟨hleast, hpairs⟩ := ih
    have hnext : ∀ d ∈ done, Store.nextId s.reviews < d.id := by
      intro d hd
      have hd := hleast d hd
      simp only [Store.nextId, Store.withReview, List.length_append, List.length_singleton] at hd ⊢
      omega
    refine ⟨List.forall_mem_cons.mpr ⟨Int.le_refl _, fun d hd => Int.le_of_lt (hnext d hd)⟩, ?_⟩
    exact List.pairwise_cons.mpr ⟨hnext, hpairs⟩

theorem FinishesAll.eq_map (h : FinishesAll now false ws s rs done s') :
    done = rs.map (·.applyWaivers ws) := by
  induction h with
  | nil s => rfl
  | cons hfinishes _ ih => rw [List.map_cons, hfinishes.1, ih]

/-- A finished review is of the same file. -/
theorem FinishesAll.map_file (h : FinishesAll now wanted ws s rs done s')
    (hnames : ∀ r ∈ rs, r.filename ≠ "") :
    done.map (fun d => (d.filename, d.source)) = rs.map fun r => (r.filename, r.source) := by
  induction h with
  | nil s => rfl
  | @cons s s' _ r finished rs done hfinishes _ ih =>
    obtain ⟨hr, hrs⟩ := List.forall_mem_cons.mp hnames
    have hfile : finished.filename = r.filename ∧ finished.source = r.source := by
      rw [← filename_applyWaivers r ws, ← source_applyWaivers r ws]
      cases wanted with
      | false =>
        obtain ⟨rfl, -⟩ := hfinishes
        exact ⟨rfl, rfl⟩
      | true =>
        obtain ⟨-, -, hresult⟩ := Store.save_eq_ok_iff.mp hfinishes
        cases hresult
        exact ⟨if_neg (filename_applyWaivers r ws ▸ hr), rfl⟩
    rw [List.map_cons, List.map_cons, ih hrs, hfile.1, hfile.2]

end

theorem fileName_of_unsaved (format : Report.Format) {r : Review} (h : ¬ 0 < r.id) :
    Report.fileName format r = Report.fileName format { filename := r.filename } := by
  simp only [Report.fileName, Report.baseName, if_neg h]
  rfl

/-- The review of a text is not stored, and goes by the given name. -/
theorem analyze_eq_ok_fields {engine : Engine} {now : Instant} {cancelled : Bool} {source filename : String}
    {r : Review} (h : engine.analyze now cancelled source filename = .ok r) :
    r.id = 0 ∧ r.filename = Review.filenameOr filename ∧ r.source = source := by
  unfold Engine.analyze at h
  split at h
  · cases h
  · obtain ⟨fs, -, rfl⟩ := map_eq_ok_iff.mp h
    exact ⟨rfl, rfl, rfl⟩

theorem map_file_of_analyzeAll {engine : Engine} {now : Instant} {cancelled : Bool}
    {units : List Source.CompilationUnit} {rs : List Review}
    (h : engine.analyzeAll now cancelled units = .ok rs) (hnames : ∀ u ∈ units, u.name ≠ "") :
    rs.map (fun r => (r.filename, r.source)) = units.map fun u => (u.name, u.text) := by
  induction units generalizing rs with
  | nil =>
    cases h
    rfl
  | cons unit units ih =>
    obtain ⟨hunit, hunits⟩ := List.forall_mem_cons.mp hnames
    unfold Engine.analyzeAll at h
    split at h
    next => cases h
    next first hfirst =>
      obtain ⟨rest, hrest, rfl⟩ := map_eq_ok_iff.mp h
      obtain ⟨-, hfilename, hsource⟩ := analyze_eq_ok_fields hfirst
      rw [List.map_cons, List.map_cons, ih hrest hunits, hfilename, hsource, Review.filenameOr,
        if_neg hunit]

/-! ## Orders -/

theorem settingsOf_eq_insertionSort : StoreSource.settingsOf = fun query =>
    ((query.pairs.filter (·.1 = "_pragma")).map (·.2)).insertionSort (Setting.precedes · ·) := by
  funext query
  refine mergeSort_eq_insertionSort ?_ ?_ _
  · intro s t u hst htu
    simp only [Setting.precedes, Bool.or_eq_true, Bool.and_eq_true, Bool.not_eq_true', decide_eq_true_eq]
      at hst htu ⊢
    grind
  · intro s t
    simp only [Setting.precedes]
    grind

theorem load_eq_insertionSort : Source.load = fun disk limit paths =>
    (((Source.readings disk limit paths).filterMap Except.toOption).insertionSort
        fun a b => decide (a.path ≤ b.path) = true,
      (Source.load disk limit paths).2) := by
  funext disk limit paths
  refine Prod.ext (mergeSort_eq_insertionSort ?_ ?_ _) rfl
  · intro a b c hab hbc
    exact decide_eq_true (String.le_trans (of_decide_eq_true hab) (of_decide_eq_true hbc))
  · intro a b
    simpa using String.le_total a.path b.path

/-! ## The command -/

/-- What a run of the command does: the format of its reports, the settings, the files that it found, and
the reviews of these as they were finished. -/
def Analyzes (e : Surroundings) (l : Line) (w : Workspace) (format : Report.Format) (config : Config)
    (units : List Source.CompilationUnit) (done : List Review) : Prop :=
  Report.Format.parse? (l.given.text "format" "json") = some format ∧
  ∃ engine x ws reviews s',
    runOn (startEngine e l.given) { workspace := w } = (.ok (config, engine), x) ∧
    units = (Source.load x.workspace.tree.disk config.analysis.maxSourceBytes (pathsOf l config)).1 ∧
    engine.analyzeAll e.now false units = .ok reviews ∧
    x.store.store.listWaivers e.now true = .ok ws ∧
    FinishesAll e.now (!l.given.isOn "no-save") ws x.store.store reviews done s'

/-- The names of the files that a run of the command finds. -/
def namesFound (e : Surroundings) (l : Line) (w : Workspace) : List String :=
  match runOn (startEngine e l.given) { workspace := w } with
  | (.ok (config, _), x) =>
    (Source.load x.workspace.tree.disk config.analysis.maxSourceBytes (pathsOf l config)).1.map (·.name)
  | (.error _, _) => []

variable {e : Surroundings} {args : List String} {l : Line} {w : Workspace} {format : Report.Format}
  {config : Config} {units : List Source.CompilationUnit} {done : List Review}

theorem Analyzes.names_eq (h : Analyzes e l w format config units done) :
    units.map (·.name) = namesFound e l w := by
  obtain ⟨-, engine, x, ws, reviews, s', hstart, rfl, -⟩ := h
  rw [namesFound, hstart]

theorem analyze_eq_ok {y : Session} (h : runOn (analyze e l) { workspace := w } = (.ok (), y)) :
    ∃ format config units done tree places, Analyzes e l w format config units done ∧
      Report.WritesAll (reportDir l.given config) format tree done places y.workspace.tree := by
  unfold analyze readFormat at h
  split at h
  · next format hformat =>
    rw [pure_bind] at h
    obtain ⟨⟨config, engine⟩, x, hstart, h⟩ := runOn_bind_eq_ok h
    dsimp only at h
    rw [← pathsOf] at h
    split at h
    · cases h
    rw [runOn_tree_bind] at h
    split at h
    · cases h
    obtain ⟨reviews, hreviews, h⟩ := runOn_orFail_bind_eq_ok h
    rw [runOn_store_bind] at h
    obtain ⟨ws, hws, h⟩ := runOn_orFail_bind_eq_ok h
    obtain ⟨done, z, hdone, h⟩ := runOn_bind_eq_ok h
    obtain ⟨hfinishes, places, hwrites⟩ := finishReviews_eq_ok hdone
    have htree : y.workspace.tree = z.workspace.tree := by
      split at h <;> cases h <;> rfl
    refine ⟨format, config, _, done, x.workspace.tree, places, ⟨hformat, engine, x, ws, reviews, _, hstart,
      rfl, hreviews, hws, hfinishes⟩, ?_⟩
    rw [htree]
    exact hwrites
  · cases h

/-- A run that succeeds wrote the reports of its reviews. -/
theorem run_eq_ok (hline : readLine args = .ok (.run l)) (hname : l.name = .analyze)
    (h : (run e args w).failure = none) :
    ∃ format config units done tree places, Analyzes e l w format config units done ∧
      Report.WritesAll (reportDir l.given config) format tree done places
        (run e args w).workspace.tree := by
  let e' : Surroundings := { e with colored := e.colored && !l.given.isOn "no-color" }
  have haction : runOn (action e args) { workspace := w } =
      runOn (analyze e' l) { workspace := w } := by
    unfold action
    rw [hline]
    show runOn (perform e' l) _ = _
    rw [perform, hname]
  cases hrun : runOn (analyze e' l) { workspace := w } with
  | mk outcome y =>
    have hresult : (action e args).run.run { workspace := w } = (outcome, y) := haction.trans hrun
    have htree : (run e args w).workspace.tree = y.workspace.tree := by
      unfold run
      rw [hresult]
      exact Workspace.tree_keepStore _ _
    unfold run at h
    rw [hresult] at h
    rw [htree]
    cases outcome with
    | error f => cases h
    | ok _ =>
      obtain ⟨format, config, units, done, tree, places, hanalyzes, hwrites⟩ := analyze_eq_ok hrun
      -- the colors of the output are of no account here
      have hplain : Analyzes e l w format config units done := hanalyzes
      exact ⟨format, config, units, done, tree, places, hplain, hwrites⟩

/-- The finished reviews are those of the files, in order. -/
theorem Analyzes.map_file (h : Analyzes e l w format config units done) :
    done.map (fun d => (d.filename, d.source)) = units.map fun u => (u.name, u.text) := by
  obtain ⟨-, engine, x, ws, reviews, s', -, rfl, hreviews, -, hfinishes⟩ := h
  have hnames := map_file_of_analyzeAll hreviews fun u hu => (Source.name_of_mem_load hu).1
  rw [hfinishes.map_file, hnames]
  intro r hr hempty
  obtain ⟨u, hu, hfile⟩ := List.mem_map.mp (hnames ▸ List.mem_map_of_mem hr)
  exact (Source.name_of_mem_load hu).1 ((congrArg Prod.fst hfile).trans hempty)

theorem Analyzes.slash_notMem_fileName (h : Analyzes e l w format config units done) {d : Review}
    (hd : d ∈ done) : '/' ∉ (Report.fileName format d).toList := by
  have hfiles := h.map_file
  obtain ⟨-, engine, x, ws, reviews, s', -, rfl, -⟩ := h
  obtain ⟨u, hu, hfile⟩ := List.mem_map.mp (hfiles ▸ List.mem_map_of_mem hd)
  obtain ⟨hempty, hslash⟩ := Source.name_of_mem_load hu
  rw [(Prod.mk.inj hfile).1] at hempty hslash
  have hcomponents : Path.components d.filename = [d.filename.toList] := Text.splitOn_of_notMem hslash
  refine Report.slash_notMem_fileName (.inr (Path.slash_notMem_base (c := d.filename.toList) ?_ ?_))
  · rw [hcomponents]
    exact List.mem_singleton_self _
  · exact fun hnil => hempty (String.toList_injective hnil)

/-- The reports of stored reviews have different names. -/
theorem FinishesAll.nodup {now : Instant} {ws : List Waiver} {s s' : Store} {rs : List Review}
    (h : FinishesAll now true ws s rs done s') : (done.map (Report.fileName format)).Nodup := by
  obtain ⟨hleast, hpairs⟩ := h.ids
  have hpos : ∀ d ∈ done, 0 < d.id := by
    intro d hd
    have hd := hleast d hd
    rw [Store.nextId] at hd
    omega
  refine List.pairwise_map.mpr (hpairs.imp_of_mem ?_)
  intro d d' hd hd' hlt hsame
  exact Int.ne_of_lt hlt (Report.id_eq_of_fileName_eq (hpos d hd) (hpos d' hd') hsame)

/-- The reports of reviews that are not stored have the names that the files give them. -/
theorem Analyzes.map_fileName (h : Analyzes e l w format config units done)
    (hsave : l.given.isOn "no-save" = true) : done.map (Report.fileName format) =
      units.map fun u => Report.fileName format { filename := u.name } := by
  have hfiles := congrArg (List.map fun file => Report.fileName format { filename := file.1 }) h.map_file
  rw [List.map_map, List.map_map] at hfiles
  obtain ⟨-, engine, x, ws, reviews, s', -, -, hreviews, -, hfinishes⟩ := h
  rw [hsave] at hfinishes
  have hunsaved : ∀ d ∈ done, ¬ 0 < d.id := by
    intro d hd
    rw [hfinishes.eq_map] at hd
    obtain ⟨r, hr, rfl⟩ := List.mem_map.mp hd
    obtain ⟨u, -, hanalyze⟩ := exists_unit_of_analyzeAll hreviews r hr
    rw [id_applyWaivers, (analyze_eq_ok_fields hanalyze).1]
    decide
  rw [List.map_congr_left fun d hd => fileName_of_unsaved format (hunsaved d hd)]
  exact hfiles

/-- The names of the reports are different exactly if reviews are stored or the files have names that
make a difference. -/
theorem Analyzes.nodup_iff (h : Analyzes e l w format config units done) :
    (done.map (Report.fileName format)).Nodup ↔ l.given.isOn "no-save" = false ∨
      (units.map fun u => Report.fileName format { filename := u.name }).Nodup := by
  cases hsave : l.given.isOn "no-save" with
  | false =>
    obtain ⟨-, engine, x, ws, reviews, s', -, -, -, -, hfinishes⟩ := h
    rw [hsave] at hfinishes
    exact iff_of_true hfinishes.nodup (.inl rfl)
  | true =>
    rw [h.map_fileName hsave]
    simp

/-- Two directories, each with a file `A.java`. -/
def sameNames : Workspace where
  tree :=
    { root := .dir [("a", .dir [("A.java", .file "class A { }")]), ("b", .dir [("A.java", .file "class A { }")])] }

/-- Surroundings without settings. -/
def bare : Surroundings := { now := .zero }

/-- The line that reviews both directories. -/
def bothLine (given : Given) : Line := { name := .analyze, given, args := ["a", "b"] }

/-- A run that succeeds leaves a report of its own for each file that it found exactly if reviews are
stored, or no two files give their reports the same name. -/
theorem run_leavesReports_iff (hline : readLine args = .ok (.run l)) (hname : l.name = .analyze)
    (hok : (run e args w).failure = none) :
    ∃ format config units done, Analyzes e l w format config units done ∧
      done.map (fun d => (d.filename, d.source)) = (units.map fun u => (u.name, u.text)) ∧
      (Report.LeavesReports (run e args w).workspace.tree (reportDir l.given config) format done ↔
        l.given.isOn "no-save" = false ∨
          (units.map fun u => Report.fileName format { filename := u.name }).Nodup) := by
  obtain ⟨format, config, units, done, tree, places, hanalyzes, hwrites⟩ := run_eq_ok hline hname hok
  refine ⟨format, config, units, done, hanalyzes, hanalyzes.map_file, ?_⟩
  rw [hwrites.leavesReports_iff fun d hd => hanalyzes.slash_notMem_fileName hd, hanalyzes.nodup_iff]

/-- Stored reviews have a report each. -/
theorem run_leavesReports_iff_sameNames :
    readLine ["analyze", "a", "b"] = .ok (.run (bothLine [])) ∧
    (run bare ["analyze", "a", "b"] sameNames).failure = none ∧
    ∃ format config units done, Analyzes bare (bothLine []) sameNames format config units done ∧
      Report.LeavesReports (run bare ["analyze", "a", "b"] sameNames).workspace.tree (reportDir [] config)
        format done := by
  have hline : readLine ["analyze", "a", "b"] = .ok (.run (bothLine [])) := by decide +kernel
  have hok : (run bare ["analyze", "a", "b"] sameNames).failure.isNone = true := by
    delta run action perform analyze startEngine start Workspace.openStore StoreSource.ofText
    rw [settingsOf_eq_insertionSort, load_eq_insertionSort]
    decide +kernel
  rw [Option.isNone_iff_eq_none] at hok
  obtain ⟨format, config, units, done, hanalyzes, -, hiff⟩ := run_leavesReports_iff hline rfl hok
  exact ⟨hline, hok, format, config, units, done, hanalyzes, hiff.mpr (.inl rfl)⟩

/-- Reviews of files with the same name that are not stored share one report. -/
theorem not_leavesReports_sameNames :
    readLine ["analyze", "--no-save", "a", "b"] = .ok (.run (bothLine [("no-save", .flag true)])) ∧
    (run bare ["analyze", "--no-save", "a", "b"] sameNames).failure = none ∧
    ∃ format config units done,
      Analyzes bare (bothLine [("no-save", .flag true)]) sameNames format config units done ∧
      units.map (·.name) = ["A.java", "A.java"] ∧
      ¬ Report.LeavesReports (run bare ["analyze", "--no-save", "a", "b"] sameNames).workspace.tree
        (reportDir [("no-save", .flag true)] config) format done := by
  have hline : readLine ["analyze", "--no-save", "a", "b"] =
      .ok (.run (bothLine [("no-save", .flag true)])) := by decide +kernel
  have hok : (run bare ["analyze", "--no-save", "a", "b"] sameNames).failure.isNone = true := by
    delta run action perform analyze startEngine start Workspace.openStore StoreSource.ofText
    rw [settingsOf_eq_insertionSort, load_eq_insertionSort]
    decide +kernel
  rw [Option.isNone_iff_eq_none] at hok
  obtain ⟨format, config, units, done, tree, places, hanalyzes, -⟩ := run_eq_ok hline rfl hok
  have hnames : units.map (·.name) = ["A.java", "A.java"] := by
    rw [hanalyzes.names_eq]
    delta namesFound startEngine start Workspace.openStore StoreSource.ofText
    rw [settingsOf_eq_insertionSort, load_eq_insertionSort]
    decide +kernel
  refine ⟨hline, hok, format, config, units, done, hanalyzes, hnames, fun hleaves => ?_⟩
  rcases hanalyzes.nodup_iff.mp hleaves.nodup with hsaved | hnodup
  · cases hsaved
  · have hsame := congrArg (List.map fun name => Report.fileName format { filename := name }) hnames
    rw [List.map_map] at hsame
    rw [show (units.map fun u => Report.fileName format { filename := u.name }) = _ from hsame] at hnodup
    simp at hnodup

end Command

end JavaReview
