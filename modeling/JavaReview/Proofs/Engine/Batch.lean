import JavaReview.Proofs.Engine.Faults
import JavaReview.Proofs.Engine.Interleaving
import Mathlib.Algebra.GroupWithZero.Nat

/-!
Batches of submissions that are analysed side by side. Runs are started while fewer than the limit are
active, they take their steps in any order, the first error is kept, and once it is kept the runs that
are left may be cancelled at any moment. `Batch.Step` says what one move can do and `Batch.Sound` is the
invariant. Every order of moves ends, and with the same result as analyses one by one, except that of
several errors any may be the one that is kept (`Engine.batch_settles`).
-/

namespace JavaReview.Engine

/-- How many runs may be active at once. -/
def workerLimit (workers : Int) : Nat := if workers ≤ 0 then 1 else workers.toNat

theorem workerLimit_pos (workers : Int) : 0 < workerLimit workers := by
  unfold workerLimit
  split <;> omega

/-- The submission of a source file. -/
def Submission.ofUnit (start : Instant) (u : Source.CompilationUnit) : Submission :=
  ⟨u.text, u.name, start⟩

/-- The error of an analysis that gave no review. -/
def failure? : Except AnalysisError Review → Option AnalysisError
  | .error err => some err
  | .ok _ => none

/-- What has become of a submission. -/
inductive Phase where
  | queued
  | running (run : Progress)
  | finished (outcome : Except AnalysisError Review)

/-- A submission of a batch. -/
structure Job where
  task : Submission
  phase : Phase

namespace Job

/-- Whether the job has been started and not yet finished. -/
def isActive (j : Job) : Bool :=
  match j.phase with
  | .running _ => true
  | .queued | .finished _ => false

/-- Whether the job has been finished. -/
def isFinished (j : Job) : Bool :=
  match j.phase with
  | .finished _ => true
  | .queued | .running _ => false

/-- The review of a job that was finished with one. -/
def review? (j : Job) : Option Review :=
  match j.phase with
  | .finished (.ok r) => some r
  | _ => none

/-- How many moves a job can still take if no more than so many rules are on. -/
def movesLeft (rules : Nat) (j : Job) : Nat :=
  match j.phase with
  | .queued => rules + 4
  | .running p => p.stepsLeft rules + 1
  | .finished _ => 0

section

variable (t : Submission) (p : Progress) (outcome : Except AnalysisError Review) (rules : Nat)

@[simp] theorem isActive_queued : (Job.mk t .queued).isActive = false := rfl

@[simp] theorem isActive_running : (Job.mk t (.running p)).isActive = true := rfl

@[simp] theorem isActive_finished : (Job.mk t (.finished outcome)).isActive = false := rfl

@[simp] theorem movesLeft_queued : (Job.mk t .queued).movesLeft rules = rules + 4 := rfl

@[simp] theorem movesLeft_running :
    (Job.mk t (.running p)).movesLeft rules = p.stepsLeft rules + 1 := rfl

@[simp] theorem movesLeft_finished : (Job.mk t (.finished outcome)).movesLeft rules = 0 := rfl

end

end Job

/-- What a job may have come to, by whether an error has been kept. A run is on its course to what an
analysis in one go gives, unless it was cancelled or its compiler was interrupted; then there is an
error. -/
inductive Job.Sound (e : Engine) (failed : Prop) : Job → Prop
  | queued {t : Submission} : Sound e failed ⟨t, .queued⟩
  | onCourse {t : Submission} {p : Progress} :
      p.outlook e t false = t.analyze e false → Sound e failed ⟨t, .running p⟩
  | stopped {t : Submission} : failed → Sound e failed ⟨t, .running (.ended (.error .cancelled))⟩
  | interrupted {t : Submission} {r : Review} :
      failed → Sound e failed ⟨t, .running (.ended (.ok r))⟩
  | reviewed {t : Submission} {r : Review} :
      t.analyze e false = .ok r → Sound e failed ⟨t, .finished (.ok r)⟩
  | lost {t : Submission} {outcome : Except AnalysisError Review} :
      failed → Sound e failed ⟨t, .finished outcome⟩

theorem Job.Sound.mono {e : Engine} {failed failed' : Prop} {j : Job} (h : j.Sound e failed)
    (hfailed : failed → failed') : j.Sound e failed' := by
  cases h with
  | queued => exact .queued
  | onCourse h => exact .onCourse h
  | stopped h => exact .stopped (hfailed h)
  | interrupted h => exact .interrupted (hfailed h)
  | reviewed h => exact .reviewed h
  | lost h => exact .lost (hfailed h)

/-- A batch: its jobs in order, the error that was kept, and whether the runs were cancelled. -/
structure Batch where
  jobs : List Job
  error : Option AnalysisError := none
  cancelled : Bool := false

/-- What can be done next in a batch. -/
inductive Move where
  | start (i : Nat)
  | step (i : Nat)
  | cancel

namespace Batch

/-- A batch before its first move. -/
def ofTasks (tasks : List Submission) : Batch := { jobs := tasks.map (⟨·, .queued⟩) }

/-- The number of active runs. -/
def active (b : Batch) : Nat := b.jobs.countP Job.isActive

/-- The batch with a job in another phase. -/
def put (b : Batch) (i : Nat) (t : Submission) (phase : Phase) : Batch :=
  { b with jobs := b.jobs.set i ⟨t, phase⟩ }

/-- What a finished batch returns: the reviews in the order of the jobs, or the error that was kept. -/
def result? (b : Batch) : Option (Except AnalysisError (List Review)) :=
  if b.jobs.all Job.isFinished then
    some (match b.error with
      | some err => .error err
      | none => .ok (b.jobs.filterMap Job.review?))
  else none

section Moves

variable (e : Engine) (interrupted : Option Compiler) (limit : Nat)

/-- The engine as the runs of a batch see it. The compiler is told of a cancellation, and may then
answer as it likes. -/
def engineFor (cancelled : Bool) : Engine :=
  if cancelled then { e with compiler := interrupted } else e

/-- The batch after a move, if the move is possible. A run that has ended is finished by its next step:
its error is kept unless there is one already. Runs are cancelled only when an error has been kept. -/
def move? (b : Batch) : Move → Option Batch
  | .start i =>
    match b.jobs[i]? with
    | some ⟨t, .queued⟩ => if b.active < limit then some (b.put i t (.running .ready)) else none
    | _ => none
  | .step i =>
    match b.jobs[i]? with
    | some ⟨t, .running (.ended outcome)⟩ =>
      some { b.put i t (.finished outcome) with error := b.error.or (failure? outcome) }
    | some ⟨t, .running p⟩ =>
      let run := p.next (engineFor e interrupted b.cancelled) t b.cancelled
      some (b.put i t (.running run))
    | _ => none
  | .cancel => if b.error.isSome && !b.cancelled then some { b with cancelled := true } else none

/-- The batch after moves, if all of them are possible. -/
def follow? (b : Batch) (moves : List Move) : Option Batch := moves.foldlM (move? e interrupted limit) b

/-- What a move can do to a batch. -/
inductive Step : Batch → Batch → Prop
  | start {before after : List Job} {t : Submission} {error : Option AnalysisError} {cancelled : Bool} :
      Batch.active ⟨before ++ ⟨t, .queued⟩ :: after, error, cancelled⟩ < limit →
      Step ⟨before ++ ⟨t, .queued⟩ :: after, error, cancelled⟩
        ⟨before ++ ⟨t, .running .ready⟩ :: after, error, cancelled⟩
  | advance {before after : List Job} {t : Submission} {p : Progress} {error : Option AnalysisError}
      {cancelled : Bool} : (∀ outcome, p ≠ .ended outcome) →
      Step ⟨before ++ ⟨t, .running p⟩ :: after, error, cancelled⟩
        ⟨before ++ ⟨t, .running (p.next (engineFor e interrupted cancelled) t cancelled)⟩ :: after,
          error, cancelled⟩
  | finish {before after : List Job} {t : Submission} {outcome : Except AnalysisError Review}
      {error : Option AnalysisError} {cancelled : Bool} :
      Step ⟨before ++ ⟨t, .running (.ended outcome)⟩ :: after, error, cancelled⟩
        ⟨before ++ ⟨t, .finished outcome⟩ :: after, error.or (failure? outcome), cancelled⟩
  | cancel {jobs : List Job} {err : AnalysisError} :
      Step ⟨jobs, some err, false⟩ ⟨jobs, some err, true⟩

end Moves

variable {e : Engine} {interrupted : Option Compiler} {limit : Nat} {b b' : Batch}

/-- A list with one job replaced, cut at that job. -/
theorem exists_cut {jobs : List Job} {i : Nat} {j : Job} (h : jobs[i]? = some j) :
    ∃ before after, jobs = before ++ j :: after ∧ ∀ j', jobs.set i j' = before ++ j' :: after := by
  obtain ⟨hi, rfl⟩ := List.getElem?_eq_some_iff.mp h
  refine ⟨jobs.take i, jobs.drop (i + 1), ?_, fun j' => ?_⟩
  · rw [← List.drop_eq_getElem_cons hi, List.take_append_drop]
  · exact List.set_eq_take_append_cons_drop.trans (if_pos hi)

theorem step_of_move? {move : Move} (h : b.move? e interrupted limit move = some b') :
    Step e interrupted limit b b' := by
  obtain ⟨jobs, error, cancelled⟩ := b
  cases move with
  | start i =>
    simp only [move?, put] at h
    split at h
    next t hjob =>
      split at h
      next hactive =>
        obtain ⟨before, after, rfl, hset⟩ := exists_cut hjob
        rw [hset] at h
        cases h
        exact .start hactive
      next => cases h
    next => cases h
  | step i =>
    simp only [move?, put] at h
    split at h
    next t outcome hjob =>
      obtain ⟨before, after, rfl, hset⟩ := exists_cut hjob
      rw [hset] at h
      cases h
      exact .finish
    next t p hended hjob =>
      obtain ⟨before, after, rfl, hset⟩ := exists_cut hjob
      rw [hset] at h
      cases h
      exact .advance hended
    next => cases h
  | cancel =>
    simp only [move?] at h
    split at h
    next hcancel =>
      cases h
      cases error with
      | none => cases hcancel
      | some err =>
        cases cancelled with
        | true => cases hcancel
        | false => exact .cancel
    next => cases h

/-- What every step keeps is kept by moves. -/
theorem follow?_induction {P : Batch → Prop}
    (hstep : ∀ {b b'}, Step e interrupted limit b b' → P b → P b') {moves : List Move}
    (h : b.follow? e interrupted limit moves = some b') (hb : P b) : P b' := by
  induction moves generalizing b with
  | nil =>
    cases h
    exact hb
  | cons move moves ih =>
    obtain ⟨c, hmove, hrest⟩ := Option.bind_eq_some_iff.mp h
    exact ih hrest (hstep (step_of_move? hmove) hb)

/-! ## The order of the jobs, and how many are active -/

/-- The submissions of a batch. -/
def tasks (b : Batch) : List Submission := b.jobs.map (·.task)

theorem tasks_ofTasks (tasks : List Submission) : (ofTasks tasks).tasks = tasks := by
  simp [ofTasks, Batch.tasks, Function.comp_def]

theorem active_ofTasks (tasks : List Submission) : (ofTasks tasks).active = 0 := by
  simp [ofTasks, active, Function.comp_def]

theorem Step.tasks_eq (h : Step e interrupted limit b b') : b'.tasks = b.tasks := by
  cases h <;> simp [tasks]

theorem Step.active_le (h : Step e interrupted limit b b') (hb : b.active ≤ limit) :
    b'.active ≤ limit := by
  cases h with
  | start hactive =>
    simp [active, List.countP_cons] at hactive ⊢
    omega
  | advance => simpa [active, List.countP_cons] using hb
  | finish =>
    simp [active, List.countP_cons] at hb ⊢
    omega
  | cancel => exact hb

/-! ## Termination -/

/-- How many moves a batch can still take if no more than so many rules are on. -/
def movesLeft (rules : Nat) (b : Batch) : Nat :=
  (b.jobs.map (Job.movesLeft rules)).sum + if b.cancelled then 0 else 1

@[simp] theorem registry_engineFor (cancelled : Bool) :
    (engineFor e interrupted cancelled).registry = e.registry := by
  cases cancelled <;> rfl

theorem Step.movesLeft_lt {rules : Nat} (hrules : e.registry.enabledRules.length ≤ rules)
    (h : Step e interrupted limit b b') : b'.movesLeft rules < b.movesLeft rules := by
  cases h with
  | start => simp [movesLeft, Progress.stepsLeft]
  | @advance _ _ t p _ cancelled hended =>
    have hnext : (p.next (engineFor e interrupted cancelled) t cancelled).stepsLeft rules ≤
        p.stepsLeft rules - 1 :=
      Progress.stepsLeft_next (by rwa [registry_engineFor])
    have hpos : p.stepsLeft rules ≠ 0 := by
      intro hzero
      obtain ⟨outcome, hp⟩ := Progress.ended_of_stepsLeft hzero
      exact hended outcome hp
    simp only [movesLeft, List.map_append, List.map_cons, List.sum_append, List.sum_cons,
      Job.movesLeft_running]
    omega
  | finish => simp [movesLeft]
  | cancel => simp [movesLeft]

/-- Moves are used up. -/
theorem length_add_movesLeft_le {rules : Nat} (hrules : e.registry.enabledRules.length ≤ rules)
    {moves : List Move} (h : b.follow? e interrupted limit moves = some b') :
    moves.length + b'.movesLeft rules ≤ b.movesLeft rules := by
  induction moves generalizing b with
  | nil =>
    cases h
    simp
  | cons move moves ih =>
    obtain ⟨c, hmove, hrest⟩ := Option.bind_eq_some_iff.mp h
    have hlt := (step_of_move? hmove).movesLeft_lt hrules
    have hle := ih hrest
    rw [List.length_cons]
    omega

theorem movesLeft_ofTasks (rules : Nat) (tasks : List Submission) :
    (ofTasks tasks).movesLeft rules = tasks.length * (rules + 4) + 1 := by
  simp [ofTasks, movesLeft, Function.comp_def]

/-! ## Possible moves -/

theorem move?_step_isSome {i : Nat} {t : Submission} {p : Progress}
    (h : b.jobs[i]? = some ⟨t, .running p⟩) : (b.move? e interrupted limit (.step i)).isSome := by
  cases p <;> simp [move?, h]

theorem move?_start_isSome {i : Nat} {t : Submission} (h : b.jobs[i]? = some ⟨t, .queued⟩)
    (hactive : b.active < limit) : (b.move? e interrupted limit (.start i)).isSome := by
  simp [move?, h, hactive]

/-- Whether something can be done whatever the order in which jobs are started. -/
def CanGoOn (e : Engine) (interrupted : Option Compiler) (limit : Nat) (b : Batch) : Prop :=
  (∃ i, (b.move? e interrupted limit (.step i)).isSome) ∨
    (∃ j ∈ b.jobs, j.phase = .queued) ∧ ∀ i j, b.jobs[i]? = some j → j.phase = .queued →
      (b.move? e interrupted limit (.start i)).isSome

/-- A batch that has not finished is never stuck. -/
theorem canGoOn (hlimit : 0 < limit) (h : b.result? = none) : b.CanGoOn e interrupted limit := by
  by_cases hactive : ∃ j ∈ b.jobs, j.isActive = true
  · obtain ⟨⟨t, phase⟩, hj, hactive⟩ := hactive
    obtain ⟨i, hi⟩ := List.getElem?_of_mem hj
    cases phase with
    | running p => exact .inl ⟨i, move?_step_isSome hi⟩
    | queued => cases hactive
    | finished outcome => cases hactive
  · have hidle : b.active = 0 := List.countP_eq_zero.mpr fun j hj hj' => hactive ⟨j, hj, hj'⟩
    have hunfinished : ∃ j ∈ b.jobs, ¬ j.isFinished = true := by
      rw [result?] at h
      split at h
      · cases h
      next hall => simpa using hall
    obtain ⟨⟨t, phase⟩, hj, hj'⟩ := hunfinished
    refine .inr ⟨⟨_, hj, ?_⟩, ?_⟩
    · cases phase with
      | queued => rfl
      | running p => exact absurd ⟨_, hj, rfl⟩ hactive
      | finished outcome => exact absurd rfl hj'
    · rintro i ⟨t', phase'⟩ hi rfl
      exact move?_start_isSome hi (hidle ▸ hlimit)

/-! ## Outcomes -/

/-- A batch that can be trusted: runs are cancelled only after an error, its jobs are sound, and an error
is that of some submission. -/
structure Sound (e : Engine) (b : Batch) : Prop where
  error_of_cancelled : b.cancelled = true → b.error.isSome = true
  jobs : ∀ j ∈ b.jobs, j.Sound e (b.error.isSome = true)
  blames : ∀ err, b.error = some err → ∃ t ∈ b.tasks, t.analyze e false = .error err

theorem sound_ofTasks (e : Engine) (tasks : List Submission) : (ofTasks tasks).Sound e where
  error_of_cancelled h := by cases h
  jobs := by
    intro j hj
    obtain ⟨t, -, rfl⟩ := List.mem_map.mp hj
    exact .queued
  blames err h := by cases h

/-- A property of all jobs when one of them is replaced. -/
theorem forall_mem_replace {before after : List Job} {j j' : Job} {P Q : Job → Prop}
    (h : ∀ x ∈ before ++ j :: after, P x) (hPQ : ∀ x, P x → Q x) (hj : P j → Q j') :
    ∀ x ∈ before ++ j' :: after, Q x := by
  simp only [List.forall_mem_append, List.forall_mem_cons] at h ⊢
  exact ⟨fun x hx => hPQ x (h.1 x hx), hj h.2.1, fun x hx => hPQ x (h.2.2 x hx)⟩

/-- A run that takes a step stays on its course, unless it is cancelled. -/
theorem sound_advance {t : Submission} {p : Progress} {failed : Prop} {cancelled : Bool}
    (h : (Job.mk t (.running p)).Sound e failed) (hended : ∀ outcome, p ≠ .ended outcome)
    (hcancelled : cancelled = true → failed) :
    (Job.mk t (.running (p.next (engineFor e interrupted cancelled) t cancelled))).Sound e failed := by
  cases h with
  | onCourse hcourse =>
    have hnext : (p.next e t false).outlook e t false = t.analyze e false :=
      Progress.outlook_next.trans hcourse
    cases cancelled with
    | false => exact .onCourse hnext
    | true =>
      rcases Progress.next_of_cancelled (t := t) (registry_engineFor true) hended with
        hsame | hstop | ⟨r, hreview⟩
      · rw [hsame]
        exact .onCourse hnext
      · rw [hstop]
        exact .stopped (hcancelled rfl)
      · rw [hreview]
        exact .interrupted (hcancelled rfl)
  | stopped => exact absurd rfl (hended _)
  | interrupted => exact absurd rfl (hended _)

/-- A run that is finished gives its review, or there is an error, and a new error is its own. -/
theorem sound_finish {t : Submission} {outcome : Except AnalysisError Review}
    {error : Option AnalysisError}
    (h : (Job.mk t (.running (.ended outcome))).Sound e (error.isSome = true)) :
    (Job.mk t (.finished outcome)).Sound e ((error.or (failure? outcome)).isSome = true) ∧
      ∀ err, error.or (failure? outcome) = some err →
        error = some err ∨ t.analyze e false = .error err := by
  cases error with
  | some err => exact ⟨.lost rfl, fun _ h => .inl h⟩
  | none =>
    cases h with
    | onCourse hcourse =>
      cases outcome with
      | ok r => exact ⟨.reviewed hcourse.symm, fun err h => by cases h⟩
      | error err =>
        refine ⟨.lost rfl, fun err' herr => .inr ?_⟩
        cases herr
        exact hcourse.symm
    | stopped hfailed => cases hfailed
    | interrupted hfailed => cases hfailed

theorem Sound.step (h : b.Sound e) (hstep : Step e interrupted limit b b') : b'.Sound e := by
  have htasks := hstep.tasks_eq
  cases hstep with
  | start hactive =>
    exact ⟨h.error_of_cancelled, forall_mem_replace h.jobs (fun _ hx => hx) fun _ => .onCourse rfl,
      by rw [htasks]; exact h.blames⟩
  | advance hended =>
    exact ⟨h.error_of_cancelled, forall_mem_replace h.jobs (fun _ hx => hx) fun hj =>
      sound_advance hj hended h.error_of_cancelled, by rw [htasks]; exact h.blames⟩
  | @finish before after t outcome error cancelled =>
    have hjob := sound_finish (h.jobs ⟨t, .running (.ended outcome)⟩ (by simp))
    have hfailed (hsome : error.isSome = true) : (error.or (failure? outcome)).isSome = true := by
      rw [Option.isSome_or, hsome, Bool.true_or]
    refine ⟨fun hc => hfailed (h.error_of_cancelled hc),
      forall_mem_replace h.jobs (fun _ hx => hx.mono hfailed) fun _ => hjob.1, fun err herr => ?_⟩
    rw [htasks]
    rcases hjob.2 err herr with hold | hown
    · exact h.blames err hold
    · exact ⟨t, by simp [tasks], hown⟩
  | cancel => exact ⟨fun _ => rfl, h.jobs, h.blames⟩

theorem result?_eq_some_iff {result : Except AnalysisError (List Review)} :
    b.result? = some result ↔ (∀ j ∈ b.jobs, j.isFinished = true) ∧
      result = match b.error with
        | some err => .error err
        | none => .ok (b.jobs.filterMap Job.review?) := by
  rw [result?]
  split
  next hall =>
    rw [Option.some.injEq, eq_comm]
    exact ⟨fun h => ⟨List.all_eq_true.mp hall, h⟩, fun h => h.2⟩
  next hall =>
    constructor
    · intro h
      cases h
    · rintro ⟨hfinished, -⟩
      exact absurd (List.all_eq_true.mpr hfinished) hall

/-- Without an error, the reviews of finished jobs are those of their submissions, in order. -/
theorem map_analyze_of_finished {jobs : List Job} (hfinished : ∀ j ∈ jobs, j.isFinished = true)
    (hsound : ∀ j ∈ jobs, j.Sound e False) :
    jobs.map (·.task.analyze e false) = (jobs.filterMap Job.review?).map .ok := by
  induction jobs with
  | nil => rfl
  | cons j jobs ih =>
    rw [List.forall_mem_cons] at hfinished hsound
    rw [List.map_cons, ih hfinished.2 hsound.2]
    cases hsound.1 with
    | reviewed hreview =>
      rw [hreview]
      rfl
    | queued => cases hfinished.1
    | onCourse => cases hfinished.1
    | stopped h => exact h.elim
    | interrupted h => exact h.elim
    | lost h => exact h.elim

end Batch

theorem isolating_self {e : Engine} {isolate : Bool} (h : e.isolateFaults = isolate) :
    e.isolating isolate = e := by
  cases h
  rfl

/-- An analysis that was not cancelled fails with the fault of a rule only. -/
theorem Submission.exists_fault {t : Submission} {e : Engine} {err : AnalysisError}
    (h : t.analyze e false = .error err) : ∃ rule fault, err = .ruleFailed rule fault := by
  cases hisolate : e.isolateFaults with
  | false =>
    rw [Submission.analyze, ← isolating_self hisolate] at h
    obtain ⟨before, r, after, fault, -, -, -, rfl⟩ := analyze_eq_error_iff.mp h
    exact ⟨r.name, fault, rfl⟩
  | true =>
    obtain ⟨segs, hrun⟩ := e.exists_isRun t.source t.filename
    rw [isolating_self hisolate] at hrun
    have hok : t.analyze e false = .ok _ := analyze_eq_ok_iff.mpr ⟨by simp, segs, hrun, rfl⟩
    rw [hok] at h
    cases h

theorem analyzeAll_eq_ok_iff {e : Engine} {now : Instant} {units : List Source.CompilationUnit}
    {rs : List Review} : e.analyzeAll now false units = .ok rs ↔
      (units.map (Submission.ofUnit now)).map (·.analyze e false) = rs.map .ok := by
  induction units generalizing rs with
  | nil => cases rs <;> simp [analyzeAll]
  | cons u units ih =>
    have hfirst : (Submission.ofUnit now u).analyze e false = e.analyze now false u.text u.name := rfl
    rw [analyzeAll, List.map_cons, List.map_cons, hfirst]
    cases e.analyze now false u.text u.name with
    | error err => cases rs <;> simp
    | ok r => cases rs with
      | nil => cases e.analyzeAll now false units <;> simp [Except.map]
      | cons r' rs =>
        rw [List.map_cons, List.cons.injEq, ← ih, Except.ok.injEq]
        cases e.analyzeAll now false units <;> simp [Except.map]

/-- Submissions that all have reviews. -/
theorem Submission.exists_review_of_map_eq {e : Engine} {tasks : List Submission} {rs : List Review}
    (h : tasks.map (·.analyze e false) = rs.map .ok) {t : Submission} (ht : t ∈ tasks) :
    ∃ r, t.analyze e false = .ok r := by
  have hmem : t.analyze e false ∈ rs.map .ok := h ▸ List.mem_map_of_mem ht
  obtain ⟨r, -, hr⟩ := List.mem_map.mp hmem
  exact ⟨r, hr.symm⟩

/-- A batch that can be trusted returns all reviews or the fault of a rule. -/
theorem Batch.Sound.result_cases {e : Engine} {b : Batch} (h : b.Sound e)
    {result : Except AnalysisError (List Review)} (hresult : b.result? = some result) :
    (∃ rs, result = .ok rs ∧ b.tasks.map (·.analyze e false) = rs.map .ok) ∨
      ∃ t ∈ b.tasks, ∃ rule fault, t.analyze e false = .error (.ruleFailed rule fault) ∧
        result = .error (.ruleFailed rule fault) := by
  obtain ⟨hfinished, rfl⟩ := Batch.result?_eq_some_iff.mp hresult
  cases herror : b.error with
  | none =>
    have hsound : ∀ j ∈ b.jobs, j.Sound e False := fun j hj =>
      (h.jobs j hj).mono (by simp [herror])
    refine .inl ⟨_, rfl, ?_⟩
    rw [Batch.tasks, List.map_map]
    exact Batch.map_analyze_of_finished hfinished hsound
  | some err =>
    obtain ⟨t, ht, hanalyze⟩ := h.blames err herror
    obtain ⟨rule, fault, rfl⟩ := Submission.exists_fault hanalyze
    exact .inr ⟨t, ht, rule, fault, hanalyze, rfl⟩

/-- What a batch comes to, whatever moves were made. -/
structure BatchSettles (e : Engine) (interrupted : Option Compiler) (workers : Int)
    (tasks : List Submission) (moves : List Move) (b : Batch) : Prop where
  /-- No more runs are active at once than were asked for. -/
  active_le : b.active ≤ workerLimit workers
  /-- There are not many moves to make, -/
  bounded : moves.length ≤ tasks.length * (e.registry.size + 4) + 1
  /-- and there is one to make until the batch returns. -/
  canGoOn : b.result? = none → b.CanGoOn e interrupted (workerLimit workers)
  /-- If every analysis succeeds, the batch returns their reviews in order. -/
  succeeds : (∀ t ∈ tasks, ∃ r, t.analyze e false = .ok r) →
    ∀ result, b.result? = some result →
      ∃ rs, result = .ok rs ∧ tasks.map (·.analyze e false) = rs.map .ok
  /-- If one fails, the batch returns the fault of a rule in some analysis. -/
  fails : (∃ t ∈ tasks, ∃ err, t.analyze e false = .error err) →
    ∀ result, b.result? = some result →
      ∃ t ∈ tasks, ∃ rule fault, t.analyze e false = .error (.ruleFailed rule fault) ∧
        result = .error (.ruleFailed rule fault)
  /-- Source files that are read at one instant are reviewed as they are one after the other. -/
  sequential : ∀ now units, tasks = units.map (Submission.ofUnit now) →
    ∀ result, b.result? = some result →
      ∀ rs, result = .ok rs ↔ e.analyzeAll now false units = .ok rs

/-- **Batches.** Every order in which runs are started, take their steps and are cancelled ends, and with
the reviews of all submissions or with the fault of a rule in one of them. -/
theorem batch_settles (e : Engine) (interrupted : Option Compiler) (workers : Int)
    (tasks : List Submission) (moves : List Move) (b : Batch)
    (h : (Batch.ofTasks tasks).follow? e interrupted (workerLimit workers) moves = some b) :
    e.BatchSettles interrupted workers tasks moves b := by
  have hsound : b.Sound e :=
    Batch.follow?_induction (fun hstep hb => hb.step hstep) h (Batch.sound_ofTasks e tasks)
  have htasks : b.tasks = tasks :=
    Batch.follow?_induction (P := fun c => c.tasks = tasks)
      (fun hstep hc => hstep.tasks_eq.trans hc) h (Batch.tasks_ofTasks tasks)
  have hcases {result : Except AnalysisError (List Review)} (hresult : b.result? = some result) :=
    hsound.result_cases hresult
  rw [htasks] at hcases
  constructor
  case active_le =>
    exact Batch.follow?_induction (fun hstep hb => hstep.active_le hb) h
      (by simp [Batch.active_ofTasks])
  case bounded =>
    have hmoves := Batch.length_add_movesLeft_le e.registry.length_enabledRules_le h
    rw [Batch.movesLeft_ofTasks] at hmoves
    omega
  case canGoOn => exact Batch.canGoOn (workerLimit_pos workers)
  case succeeds =>
    intro hall result hresult
    rcases hcases hresult with hok | ⟨t, ht, rule, fault, hanalyze, -⟩
    · exact hok
    · obtain ⟨r, hr⟩ := hall t ht
      rw [hr] at hanalyze
      cases hanalyze
  case fails =>
    rintro ⟨t, ht, err, herr⟩ result hresult
    rcases hcases hresult with ⟨rs, -, hrs⟩ | hfault
    · obtain ⟨r, hr⟩ := Submission.exists_review_of_map_eq hrs ht
      rw [hr] at herr
      cases herr
    · exact hfault
  case sequential =>
    rintro now units rfl result hresult rs
    rw [analyzeAll_eq_ok_iff]
    rcases hcases hresult with ⟨rs', rfl, hrs'⟩ | ⟨t, ht, rule, fault, hanalyze, rfl⟩
    · rw [hrs', Except.ok.injEq]
      exact ⟨fun heq => heq ▸ rfl, fun heq => List.map_injective_iff.mpr (fun _ _ => Except.ok.inj) heq⟩
    · refine iff_of_false (fun heq => by cases heq) fun heq => ?_
      obtain ⟨r, hr⟩ := Submission.exists_review_of_map_eq heq ht
      rw [hr] at hanalyze
      cases hanalyze

/-- An engine whose only rule fails on one file. -/
def picky : Engine where
  registry :=
    { entries := [⟨⟨"picky", "", fun src =>
        if src.filename = "B.java" then .error (.value "no") else .ok [{ line := 1 }]⟩, true⟩]
      name_ne_empty := by decide
      names_nodup := by decide }

/-- The middle one of three submissions fails while the first is being reviewed. The first is cancelled,
and the last is started after that. -/
theorem batch_settles_picky :
    ∃ b, (Batch.ofTasks [⟨"class A {}", "A.java", .zero⟩, ⟨"class B {}", "B.java", .zero⟩,
        ⟨"class C {}", "C.java", .zero⟩]).follow? picky none (workerLimit 2)
          [.start 1, .start 0, .step 1, .step 0, .step 1, .step 1, .cancel, .step 0, .start 2, .step 0,
            .step 2, .step 2, .step 2] = some b ∧
      b.result? = some (.error (.ruleFailed "picky" (.value "no"))) ∧
      picky.BatchSettles none 2 [⟨"class A {}", "A.java", .zero⟩, ⟨"class B {}", "B.java", .zero⟩,
        ⟨"class C {}", "C.java", .zero⟩]
          [.start 1, .start 0, .step 1, .step 0, .step 1, .step 1, .cancel, .step 0, .start 2, .step 0,
            .step 2, .step 2, .step 2] b :=
  ⟨_, rfl, rfl, batch_settles picky none 2 _ _ _ rfl⟩

end JavaReview.Engine
