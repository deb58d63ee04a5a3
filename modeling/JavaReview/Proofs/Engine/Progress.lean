import JavaReview.Proofs.Engine.Segments

/-!
Runs of the engine, step by step. A run reads which rules are on, applies them one after the other, and
adds the findings of the compiler. `Engine.Progress.outlook` is what comes out of a run that nothing
disturbs from now on. A step does not change it (`Engine.Progress.outlook_next`), and from the first step
on neither does the registry (`Engine.Progress.outlook_withRegistry`).
-/

namespace JavaReview.Engine

/-- A text that is handed in for a review at an instant. -/
structure Submission where
  source : String
  filename : String
  start : Instant

/-- The analysis of a submission in one go. -/
def Submission.analyze (t : Submission) (e : Engine) (cancelled : Bool) : Except AnalysisError Review :=
  e.analyze t.start cancelled t.source t.filename

/-- The engine with another registry. -/
def withRegistry (e : Engine) (r : Registry) : Engine := { e with registry := r }

/-- How far a run has come. -/
inductive Progress where
  | ready
  | applying (left : List Rule) (found : List (List Finding))
  | ended (outcome : Except AnalysisError Review)

namespace Progress

/-- A run after one more step. Only the first step looks at the registry, and a run that was cancelled
ends before it applies another rule. -/
def next (e : Engine) (t : Submission) (cancelled : Bool) : Progress → Progress
  | ready => applying e.registry.enabledRules []
  | applying [] found =>
    ended (.ok (review t.start t.source t.filename
      (found.flatten ++ e.compilerFindings t.source t.filename)))
  | applying (r :: left) found =>
    if cancelled then ended (.error .cancelled)
    else
      match segment e.isolateFaults (.ofSource t.source (Review.filenameOr t.filename)) r with
      | .error err => ended (.error err)
      | .ok fs => applying left (found ++ [fs])
  | ended outcome => ended outcome

/-- What comes out of a run if it goes on to its end. -/
def outlook (e : Engine) (t : Submission) (cancelled : Bool) : Progress → Except AnalysisError Review
  | ready => t.analyze e cancelled
  | applying left found =>
    if cancelled && !left.isEmpty then .error .cancelled
    else
      (segments e.isolateFaults (.ofSource t.source (Review.filenameOr t.filename)) left).map fun ss =>
        review t.start t.source t.filename
          ((found ++ ss).flatten ++ e.compilerFindings t.source t.filename)
  | ended outcome => outcome

variable {e : Engine} {t : Submission} {cancelled : Bool} {p : Progress}

/-- A step leaves what comes out of the run. -/
theorem outlook_next : (p.next e t cancelled).outlook e t cancelled = p.outlook e t cancelled := by
  cases p with
  | ready =>
    simp only [next, outlook, Submission.analyze, analyze, run, List.nil_append]
    split
    · rfl
    · cases segments e.isolateFaults (.ofSource t.source (Review.filenameOr t.filename))
        e.registry.enabledRules <;> rfl
  | applying left found =>
    cases left with
    | nil => simp [next, outlook, segments, Except.map]
    | cons r left =>
      cases cancelled with
      | true => rfl
      | false =>
        simp only [next, outlook, segments, Bool.false_and, Bool.false_eq_true, if_false]
        cases segment e.isolateFaults (.ofSource t.source (Review.filenameOr t.filename)) r with
        | error err => rfl
        | ok fs =>
          dsimp only
          cases segments e.isolateFaults (.ofSource t.source (Review.filenameOr t.filename)) left <;>
            simp [Except.map]
  | ended outcome => rfl

/-- Whether the run has read which rules are on. -/
def Begun : Progress → Prop
  | ready => False
  | applying .. | ended _ => True

theorem begun_next : (p.next e t cancelled).Begun := by
  cases p with
  | ready => trivial
  | applying left found =>
    cases left with
    | nil => trivial
    | cons r left =>
      rw [next]
      split
      · trivial
      · split <;> trivial
  | ended outcome => trivial

theorem next_withRegistry (h : p.Begun) (r : Registry) :
    p.next (e.withRegistry r) t cancelled = p.next e t cancelled := by
  cases p with
  | ready => cases h
  | applying left found => cases left <;> rfl
  | ended outcome => rfl

theorem outlook_withRegistry (h : p.Begun) (r : Registry) :
    p.outlook (e.withRegistry r) t cancelled = p.outlook e t cancelled := by
  cases p with
  | ready => cases h
  | applying left found => rfl
  | ended outcome => rfl

/-- A step of a run that was cancelled is a step as any other, or it ends the run without a fault. -/
theorem next_of_cancelled {e' : Engine} (h : e'.registry = e.registry)
    (hp : ∀ outcome, p ≠ .ended outcome) :
    p.next e' t true = p.next e t false ∨ p.next e' t true = .ended (.error .cancelled) ∨
      ∃ r, p.next e' t true = .ended (.ok r) := by
  cases p with
  | ready =>
    left
    rw [next, next, h]
  | applying left found =>
    cases left with
    | nil => exact .inr (.inr ⟨_, rfl⟩)
    | cons r left => exact .inr (.inl rfl)
  | ended outcome => exact absurd rfl (hp outcome)

/-- How many steps a run can still take that finds no more than so many rules on. -/
def stepsLeft (rules : Nat) : Progress → Nat
  | ready => rules + 2
  | applying left _ => left.length + 1
  | ended _ => 0

theorem ended_of_stepsLeft {rules : Nat} (h : p.stepsLeft rules = 0) : ∃ outcome, p = .ended outcome := by
  cases p with
  | ready => cases h
  | applying left found => cases h
  | ended outcome => exact ⟨outcome, rfl⟩

/-- Every step of a run that has not ended takes it nearer to its end. -/
theorem stepsLeft_next {rules : Nat} (hrules : e.registry.enabledRules.length ≤ rules) :
    (p.next e t cancelled).stepsLeft rules ≤ p.stepsLeft rules - 1 := by
  cases p with
  | ready =>
    simp only [next, stepsLeft]
    omega
  | applying left found =>
    cases left with
    | nil => exact Nat.le_refl 0
    | cons r left =>
      rw [next]
      split
      · exact Nat.zero_le _
      · split
        · exact Nat.zero_le _
        · exact Nat.le_refl _
  | ended outcome => exact Nat.le_refl 0

end Progress

end JavaReview.Engine
