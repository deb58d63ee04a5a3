import JavaReview.Command.Run
import JavaReview.Proofs.Store.Additions

/-!
What the command that reviews files leaves in the stores of a workspace. A job is run on a session
(`Job.runOn`), and what holds at its end is shown step by step (`Job.ends_bind`). Whatever happens on
the way, the store that was opened has the reviews of a part of the files added, without the suppressed
findings, and all other stores are as before (`adds_run`).
-/

namespace JavaReview

/-- The store at a place, empty if there is none yet. -/
def Workspace.storeAt (w : Workspace) (place : List String) : Store :=
  (w.stores.lookup place).getD .empty

theorem lookup_filter_ne {α : Type} (entries : List (List String × α)) {place other : List String}
    (h : place ≠ other) : (entries.filter (·.1 != other)).lookup place = entries.lookup place := by
  induction entries with
  | nil => rfl
  | cons entry entries ih =>
    by_cases hother : entry.1 = other
    · have hne : (place == entry.1) = false := beq_eq_false_iff_ne.mpr (hother ▸ h)
      rw [List.filter_cons_of_neg (by simp [hother]), ih, List.lookup_cons, hne]
    · rw [List.filter_cons_of_pos (by simp [hother]), List.lookup_cons, List.lookup_cons, ih]

/-- Keeping a store puts it at its place and leaves the other places alone. -/
theorem Workspace.storeAt_keepStore (w : Workspace) (o : OpenedStore) (place : List String) :
    (w.keepStore o).storeAt place = if o.place = some place then o.store else w.storeAt place := by
  unfold keepStore storeAt
  cases hplace : o.place with
  | none => simp
  | some other =>
    by_cases h : other = place
    · simp [h]
    · have hne : (place == other) = false := beq_eq_false_iff_ne.mpr (Ne.symm h)
      simp [h, List.lookup_cons, hne, lookup_filter_ne _ (Ne.symm h)]

namespace Command

open Job

/-! ## Jobs -/

namespace Job

variable {α β : Type} {x : Session} {Q : Session → Prop}

/-- What a job comes to, and the session then. -/
def runOn (j : Job α) (x : Session) : Except Failure α × Session := j.run.run x

@[simp] theorem runOn_tree_bind (k : FileTree → Job β) :
    runOn (tree >>= k) x = runOn (k x.workspace.tree) x := rfl

@[simp] theorem runOn_store_bind (k : Store → Job β) :
    runOn (store >>= k) x = runOn (k x.store.store) x := rfl

@[simp] theorem runOn_get_bind (k : Session → Job β) : runOn (get >>= k) x = runOn (k x) x := rfl

@[simp] theorem runOn_modify_bind (f : Session → Session) (k : Unit → Job β) :
    runOn (modify f >>= k) x = runOn (k ()) (f x) := rfl

@[simp] theorem runOn_setTree_bind (t : FileTree) (k : Unit → Job β) :
    runOn (setTree t >>= k) x = runOn (k ()) { x with workspace := { x.workspace with tree := t } } := rfl

/-- What holds at the end of a job that goes on holds at its end if the first part fails or the second
one ends. -/
theorem ends_bind {j : Job α} {k : α → Job β}
    (hok : ∀ a y, runOn j x = (.ok a, y) → Q (runOn (k a) y).2)
    (herror : ∀ f y, runOn j x = (.error f, y) → Q y) : Q (runOn (j >>= k) x).2 := by
  simp only [runOn, ExceptT.run_bind, StateT.run_bind] at hok herror ⊢
  cases hj : StateT.run (ExceptT.run j) x with
  | mk outcome y =>
    cases outcome with
    | ok a => exact hok a y hj
    | error f => exact herror f y hj

theorem ends_orFail {ε : Type} {failure : ε → Failure} {r : Except ε α} {k : α → Job β} (herror : Q x)
    (hok : ∀ a, r = .ok a → Q (runOn (k a) x).2) : Q (runOn (orFail failure r >>= k) x).2 := by
  cases r with
  | ok a => exact hok a rfl
  | error e => exact herror

end Job

/-! ## Opening a store -/

/-- A session in which nothing happened to the stores of a workspace but that one may be open. -/
structure Opened (w : Workspace) (x : Session) : Prop where
  stores_eq : x.workspace.stores = w.stores
  store_eq : ∀ place, x.store.place = some place →
    ∃ isWritable locksFirst, x.store.store = (w.storeAt place).reopen isWritable locksFirst

theorem stores_openStore (w : Workspace) (source : String) :
    (w.openStore source).2.stores = w.stores := by
  unfold Workspace.openStore
  repeat' split
  all_goals rfl

theorem openStore_eq_ok {w : Workspace} {source : String} {o : OpenedStore} {place : List String}
    (h : (w.openStore source).1 = .ok o) (hplace : o.place = some place) :
    ∃ isWritable locksFirst, o.store = (w.storeAt place).reopen isWritable locksFirst := by
  unfold Workspace.openStore at h
  split at h
  · cases h
  · split at h
    · obtain ⟨_, -, rfl⟩ := map_eq_ok_iff.mp h
      cases hplace
    · split at h
      · cases h
      · split at h
        · cases h
        · obtain ⟨_, -, rfl⟩ := map_eq_ok_iff.mp h
          cases hplace
          exact ⟨_, _, rfl⟩

theorem opened_start (e : Surroundings) (given : Given) (w : Workspace) :
    Opened w (runOn (start e given) { workspace := w }).2 := by
  have hinit : Opened w { workspace := w } := ⟨rfl, by simp⟩
  unfold start
  rw [runOn_tree_bind]
  refine ends_orFail hinit fun config _ => ?_
  simp only [runOn_get_bind, runOn_modify_bind]
  generalize (if given.text "db" "" = "" then config.database.dsn else given.text "db" "") = source
  have hstores := stores_openStore w source
  have hstore {o : OpenedStore} {place : List String} (h : (w.openStore source).1 = .ok o)
      (hplace : o.place = some place) := openStore_eq_ok h hplace
  generalize w.openStore source = result at hstores hstore ⊢
  refine ends_orFail ⟨hstores, by simp⟩ fun opened hopened => ?_
  exact ⟨hstores, fun place hplace => hstore hopened hplace⟩

theorem opened_startEngine (e : Surroundings) (given : Given) (w : Workspace) :
    Opened w (runOn (startEngine e given) { workspace := w }).2 := by
  have hstart := opened_start e given w
  unfold startEngine
  refine ends_bind ?_ ?_
  · intro config y hy
    rw [hy] at hstart
    rw [runOn_tree_bind, runOn_store_bind]
    exact ends_orFail hstart fun registry _ => hstart
  · intro f y hy
    rw [hy] at hstart
    exact hstart

/-! ## Finishing reviews -/

/-- A session in which some of the given reviews were saved one after the other. -/
structure Saving (now : Instant) (stored : List Review) (x y : Session) : Prop where
  stores_eq : y.workspace.stores = x.workspace.stores
  place_eq : y.store.place = x.store.place
  saves : ∃ rs : List Review, (∀ r ∈ rs, r ∈ stored) ∧
    y.store.store = x.store.store.performAll (rs.map (.save now))

namespace Saving

variable {now : Instant} {first rest : List Review} {x y z : Session}

theorem refl (now : Instant) (stored : List Review) (x : Session) : Saving now stored x x :=
  ⟨rfl, rfl, [], by simp, rfl⟩

theorem append (h : Saving now first x y) (h' : Saving now rest y z) :
    Saving now (first ++ rest) x z := by
  obtain ⟨rs, hrs, hsaved⟩ := h.saves
  obtain ⟨rs', hrs', hsaved'⟩ := h'.saves
  refine ⟨h'.stores_eq.trans h.stores_eq, h'.place_eq.trans h.place_eq, rs ++ rs', ?_, ?_⟩
  · intro r hr
    rcases List.mem_append.mp hr with hr | hr
    · exact List.mem_append_left _ (hrs r hr)
    · exact List.mem_append_right _ (hrs' r hr)
  · rw [hsaved', hsaved, List.map_append, Store.performAll_append]

end Saving

theorem saving_saveReview (now : Instant) (wanted : Bool) (r : Review) (x : Session) :
    Saving now [r] x (runOn (saveReview now wanted r) x).2 := by
  unfold saveReview
  cases wanted with
  | false => exact .refl now [r] x
  | true =>
    rw [if_pos rfl, runOn_store_bind]
    refine ends_orFail (.refl now [r] x) fun result hsave => ?_
    refine ⟨rfl, rfl, [r], by simp, ?_⟩
    have hrun : x.store.store.perform (.save now r) = result.1 :=
      Store.perform_of_run (map_eq_ok_iff.mpr ⟨_, hsave, rfl⟩)
    exact hrun.symm

theorem saving_finishReview (e : Surroundings) (wanted : Bool) (dir : String)
    (format : Report.Format) (ws : List Waiver) (r : Review) (x : Session) :
    Saving e.now [r.applyWaivers ws] x (runOn (finishReview e wanted dir format ws r) x).2 := by
  have hsave := saving_saveReview e.now wanted (r.applyWaivers ws) x
  unfold finishReview
  refine ends_bind ?_ ?_
  · intro saved y hy
    rw [hy] at hsave
    rw [runOn_tree_bind]
    -- Writing the report and telling of it touches no store.
    generalize Report.write y.workspace.tree dir format saved = result
    obtain ⟨written, path⟩ := result
    dsimp only
    rw [runOn_setTree_bind]
    exact ends_orFail ⟨hsave.stores_eq, hsave.place_eq, hsave.saves⟩
      fun path _ => ⟨hsave.stores_eq, hsave.place_eq, hsave.saves⟩
  · intro f y hy
    rw [hy] at hsave
    exact hsave

theorem saving_finishReviews (e : Surroundings) (wanted : Bool) (dir : String)
    (format : Report.Format) (ws : List Waiver) (rs : List Review) (x : Session) :
    Saving e.now (rs.map (·.applyWaivers ws)) x
      (runOn (finishReviews e wanted dir format ws rs) x).2 := by
  induction rs generalizing x with
  | nil => exact .refl e.now [] x
  | cons r rs ih =>
    have hfirst := saving_finishReview e wanted dir format ws r x
    unfold finishReviews
    refine ends_bind ?_ ?_
    · intro done y hy
      rw [hy] at hfirst
      have hrest := hfirst.append (ih y)
      refine ends_bind ?_ ?_
      · intro more z hz
        rw [hz] at hrest
        exact hrest
      · intro f z hz
        rw [hz] at hrest
        exact hrest
    · intro f y hy
      rw [hy] at hfirst
      exact hfirst.append (.refl e.now (rs.map (·.applyWaivers ws)) y)

/-! ## The command -/

/-- The paths that a command line is about: its own, or those of the settings. -/
def pathsOf (l : Line) (config : Config) : List String :=
  if l.args.isEmpty then config.analysis.sources.getD [] else l.args

/-- A review that the engine of a command line makes of one of its files. -/
def MakesReview (e : Surroundings) (l : Line) (w : Workspace) (r : Review) : Prop :=
  ∃ config engine x, runOn (startEngine e l.given) { workspace := w } = (.ok (config, engine), x) ∧
    ∃ unit ∈ (Source.load x.workspace.tree.disk config.analysis.maxSourceBytes (pathsOf l config)).1,
      engine.analyze e.now false unit.text unit.name = .ok r

theorem exists_unit_of_analyzeAll {engine : Engine} {now : Instant} {cancelled : Bool}
    {units : List Source.CompilationUnit} {rs : List Review}
    (h : engine.analyzeAll now cancelled units = .ok rs) :
    ∀ r ∈ rs, ∃ unit ∈ units, engine.analyze now cancelled unit.text unit.name = .ok r := by
  induction units generalizing rs with
  | nil =>
    cases h
    simp
  | cons unit units ih =>
    unfold Engine.analyzeAll at h
    split at h
    next => cases h
    next first hfirst =>
      obtain ⟨rest, hrest, rfl⟩ := map_eq_ok_iff.mp h
      intro r hr
      rcases List.mem_cons.mp hr with rfl | hr
      · exact ⟨unit, List.mem_cons_self, hfirst⟩
      · obtain ⟨other, hother, hr⟩ := ih hrest r hr
        exact ⟨other, List.mem_cons_of_mem _ hother, hr⟩

/-- A session in which the stores of a workspace are as before, but for the reviews of a command line
that were added to the one that is open. -/
structure Analyzed (e : Surroundings) (l : Line) (w : Workspace) (place : List String) (x : Session) :
    Prop where
  stores_eq : x.workspace.stores = w.stores
  adds : x.store.place = some place →
    Store.Adds (MakesReview e l w) ((w.storeAt place).unwaived e.now) (w.storeAt place) x.store.store

section

variable {e : Surroundings} {l : Line} {w : Workspace} {place : List String} {x y : Session}
  {log : List Store.Saved}

theorem Opened.analyzed (h : Opened w x) : Analyzed e l w place x := by
  refine ⟨h.stores_eq, fun hplace => .of_reviews_eq ?_⟩
  obtain ⟨isWritable, locksFirst, hstore⟩ := h.store_eq place hplace
  rw [hstore]
  rfl

/-- Saving reviews without the suppressed findings adds them to the store that is open. -/
theorem Opened.analyzed_of_saving (h : Opened w x) (hlog : (w.storeAt place).Holds log)
    {reviews : List Review} (hreviews : ∀ r ∈ reviews, MakesReview e l w r) {ws : List Waiver}
    (hws : x.store.store.listWaivers e.now true = .ok ws)
    (hy : Saving e.now (reviews.map (·.applyWaivers ws)) x y) : Analyzed e l w place y := by
  refine ⟨hy.stores_eq.trans h.stores_eq, fun hplace => ?_⟩
  obtain ⟨isWritable, locksFirst, hstore⟩ := h.store_eq place (hy.place_eq.symm.trans hplace)
  have hopened : x.store.store.Holds log := by
    rw [hstore]
    exact ⟨hlog.reviews_eq, hlog.findings_eq, hlog.review_ids, hlog.finding_ids, hlog.counts_eq⟩
  have hunwaived : x.store.store.unwaived e.now = (w.storeAt place).unwaived e.now := by
    rw [hstore]
    rfl
  obtain ⟨rs, hrs, hsaved⟩ := hy.saves
  have hstored : ∀ r ∈ rs,
      Store.StoredFor (MakesReview e l w) ((w.storeAt place).unwaived e.now) r := by
    intro r hr
    obtain ⟨made, hmade, rfl⟩ := List.mem_map.mp (hrs r hr)
    rw [← hunwaived]
    exact Store.storedFor_applyWaivers hws (hreviews made hmade)
  obtain ⟨more, hmore, hfor⟩ := hopened.saves e.now hstored
  rw [hsaved]
  exact hlog.adds hmore hfor

/-- Finishing the reviews and telling of them leaves what saving them left. -/
theorem Opened.analyzed_finishReviews (h : Opened w x) (hlog : (w.storeAt place).Holds log)
    {reviews : List Review} (hreviews : ∀ r ∈ reviews, MakesReview e l w r) {ws : List Waiver}
    (hws : x.store.store.listWaivers e.now true = .ok ws) (wanted : Bool) (dir : String)
    (format : Report.Format) :
    Analyzed e l w place (runOn (do
      let done ← finishReviews e wanted dir format ws reviews
      if done.length > 1 then print (totalLine e.colored done)) x).2 := by
  have hsaving := saving_finishReviews e wanted dir format ws reviews x
  refine ends_bind ?_ ?_
  · intro done y hy
    rw [hy] at hsaving
    have hdone := h.analyzed_of_saving hlog hreviews hws hsaving
    split
    · exact ⟨hdone.stores_eq, hdone.adds⟩
    · exact hdone
  · intro f y hy
    rw [hy] at hsaving
    exact h.analyzed_of_saving hlog hreviews hws hsaving

theorem analyzed_analyze (hlog : (w.storeAt place).Holds log) :
    Analyzed e l w place (runOn (analyze e l) { workspace := w }).2 := by
  have hinit : Opened w { workspace := w } := ⟨rfl, by simp⟩
  have hopened := opened_startEngine e l.given w
  unfold analyze readFormat
  split
  · rw [pure_bind]
    refine ends_bind ?_ ?_
    · rintro ⟨config, engine⟩ x hx
      rw [hx] at hopened
      dsimp only
      generalize hpaths : (if l.args.isEmpty = true then config.analysis.sources.getD [] else l.args) =
        paths
      split
      · exact hopened.analyzed
      rw [runOn_tree_bind]
      split
      · exact hopened.analyzed
      refine ends_orFail hopened.analyzed fun reviews hreviews => ?_
      rw [runOn_store_bind]
      refine ends_orFail hopened.analyzed fun ws hws => ?_
      have hmade : ∀ r ∈ reviews, MakesReview e l w r := by
        intro r hr
        refine ⟨config, engine, x, hx, ?_⟩
        rw [pathsOf, hpaths]
        exact exists_unit_of_analyzeAll hreviews r hr
      exact hopened.analyzed_finishReviews hlog hmade hws _ _ _
    · intro f x hx
      rw [hx] at hopened
      exact hopened.analyzed
  · exact hinit.analyzed

/-- Running the command adds to each store of the workspace at most reviews that it made, without the
findings that the store suppresses. -/
theorem adds_run {args : List String} (hline : readLine args = .ok (.run l)) (hname : l.name = .analyze)
    (hlog : (w.storeAt place).Holds log) :
    Store.Adds (MakesReview e l w) ((w.storeAt place).unwaived e.now) (w.storeAt place)
      ((run e args w).workspace.storeAt place) := by
  let e' : Surroundings := { e with colored := e.colored && !l.given.isOn "no-color" }
  have haction : runOn (action e args) { workspace := w } =
      runOn (analyze e' l) { workspace := w } := by
    unfold action
    rw [hline]
    show runOn (perform e' l) _ = _
    rw [perform, hname]
  have hdone : Analyzed e' l w place (runOn (analyze e' l) { workspace := w }).2 :=
    analyzed_analyze hlog
  have hrun : (run e args w).workspace =
      (runOn (action e args) { workspace := w }).2.workspace.keepStore
        (runOn (action e args) { workspace := w }).2.store := rfl
  rw [hrun, haction, Workspace.storeAt_keepStore]
  split
  next hplace => exact hdone.adds hplace
  next =>
    refine .of_reviews_eq ?_
    rw [Workspace.storeAt, hdone.stores_eq]
    rfl

end

end Command

end JavaReview
