import JavaReview.Proofs.Store.Operations

/-!
Operations of a store, statement by statement. Statements work on what is kept, or inside a transaction
on a draft of it that takes its place when all statements have succeeded. Every statement can fail for a
reason from outside, and what was done before a failure stays done. Undisturbed, the statements of an
operation come to what the operation does in one step (`Store.Call.run_undisturbed`).
-/

namespace JavaReview.Store

@[simp] theorem mapError_ok {α : Type} (form : StoreError → StoreError) (a : α) :
    (Except.ok a).mapError form = .ok a := rfl

@[simp] theorem mapError_error {α : Type} (form : StoreError → StoreError) (e : StoreError) :
    (Except.error e : Except StoreError α).mapError form = .error (form e) := rfl

/-! ## Work on a store -/

/-- Work on a store, as far as it has come. -/
structure Work where
  kept : Store
  /-- What the statements of an open transaction have made of the store. -/
  draft : Option Store := none
  /-- The review in memory that is being saved. -/
  review : Review := {}
  /-- What fails the statements to come, one after the other, for a reason from outside. -/
  faults : List (Option StoreError) := []

namespace Work

/-- The store as the next statement finds it. -/
def content (w : Work) : Store := w.draft.getD w.kept

/-- The work when a statement has put another store in the place of the one it found. -/
def put (w : Work) (s : Store) : Work :=
  if w.draft.isSome then { w with draft := some s } else { w with kept := s }

/-- The work when the draft has taken the place of what was kept. -/
def commit (w : Work) : Work := { w with kept := w.content, draft := none }

/-- The work when the draft has been dropped. -/
def rollback (w : Work) : Work := { w with draft := none }

end Work

/-- Whether a transaction can start. -/
def start (s : Store) : Except StoreError Unit :=
  s.whenOpen (if s.locksFirst && !s.isWritable then .error .readOnly else .ok ())

/-- Steps of work on a store. What was done before a failure stays done. -/
abbrev Steps := ExceptT StoreError (StateM Work)

namespace Steps

variable {α β : Type}

/-- What steps come to, and the work then. -/
def on (x : Steps α) (w : Work) : Except StoreError α × Work := x.run.run w

/-- One statement. It fails if something from outside is in its way or the store refuses the change, and
then it changes nothing. -/
def statement (change : Store → Except StoreError (Store × α)) : Steps α :=
  ExceptT.mk fun w =>
    let w' := { w with faults := w.faults.tail }
    match w.faults.head?.join with
    | some e => (.error e, w')
    | none =>
      match change w.content with
      | .error e => (.error e, w')
      | .ok (s, a) => (.ok a, w'.put s)

/-- A statement that only reads. -/
def look (f : Store → Except StoreError α) : Steps α := statement fun s => (f s).map (s, ·)

/-- A statement that is only made ready. -/
def prepare : Steps Unit := look fun _ => .ok ()

/-- Steps whose errors are reported in another form. -/
def reporting (form : StoreError → StoreError) (x : Steps α) : Steps α := ExceptT.adapt form x

/-- Opens a transaction. -/
def beginning : Steps Unit := do
  look start
  modify fun w => { w with draft := some w.kept }

/-- The request to make the draft of a transaction last, which fails only for a reason from outside. -/
def committing : Steps Unit := look fun _ => .ok ()

/-- Steps that end a transaction: it is taken back if one of them fails or if it cannot be committed. -/
def ending (x : Steps α) : Steps α :=
  ExceptT.mk fun w =>
    match Steps.on (do let a ← x; committing; return a) w with
    | (.ok a, w') => (.ok a, w'.commit)
    | (.error e, w') => (.error e, w'.rollback)

/-- Steps in a transaction of their own. -/
def transaction (x : Steps α) : Steps α := do
  beginning
  ending x

/-- A statement that is to change rows. It is done in any case, and refused afterwards if it changed
none. -/
def changingRows (change : Store → Store) (rows : Store → Nat) : Steps Unit := do
  let n ← statement fun s => s.whenWritable (.ok (change s, rows s))
  if n = 0 then throw .nothingChanged

section

variable (w : Work)

@[simp] theorem on_pure (a : α) : (pure a : Steps α).on w = (.ok a, w) := rfl

@[simp] theorem on_throw (e : StoreError) : (throw e : Steps α).on w = (.error e, w) := rfl

@[simp] theorem on_modify (f : Work → Work) : (modify f : Steps PUnit).on w = (.ok (), f w) := rfl

@[simp] theorem on_get : (get : Steps Work).on w = (.ok w, w) := rfl

theorem on_bind (x : Steps α) (k : α → Steps β) :
    (x >>= k).on w = match x.on w with
      | (.ok a, w') => (k a).on w'
      | (.error e, w') => (.error e, w') := by
  simp only [on, ExceptT.run_bind, StateT.run_bind]
  cases StateT.run (ExceptT.run x) w with
  | mk result w' => cases result <;> rfl

theorem on_bind_ok {x : Steps α} {a : α} {w' : Work} (h : x.on w = (.ok a, w')) (k : α → Steps β) :
    (x >>= k).on w = (k a).on w' := by
  rw [on_bind, h]

theorem on_bind_error {x : Steps α} {e : StoreError} {w' : Work} (h : x.on w = (.error e, w'))
    (k : α → Steps β) : (x >>= k).on w = (.error e, w') := by
  rw [on_bind, h]

@[simp] theorem on_map (f : α → β) (x : Steps α) :
    (f <$> x).on w = ((x.on w).1.map f, (x.on w).2) := by
  rw [← bind_pure_comp, on_bind]
  cases x.on w with
  | mk result w' => cases result <;> rfl

@[simp] theorem on_reporting (form : StoreError → StoreError) (x : Steps α) :
    (x.reporting form).on w = ((x.on w).1.mapError form, (x.on w).2) := rfl

theorem on_ending (x : Steps α) :
    (ending x).on w = match Steps.on (do let a ← x; committing; return a) w with
      | (.ok a, w') => (.ok a, w'.commit)
      | (.error e, w') => (.error e, w'.rollback) := rfl

/-- A statement fails and leaves the work where it was, or puts a store in the place of the one it
found. -/
theorem on_statement_cases (change : Store → Except StoreError (Store × α)) :
    (∃ e, (statement change).on w = (.error e, { w with faults := w.faults.tail })) ∨
      ∃ s a, change w.content = .ok (s, a) ∧
        (statement change).on w = (.ok a, { w with faults := w.faults.tail }.put s) := by
  have hon : (statement change).on w =
      match w.faults.head?.join with
      | some e => (.error e, { w with faults := w.faults.tail })
      | none =>
        match change w.content with
        | .error e => (.error e, { w with faults := w.faults.tail })
        | .ok (s, a) => (.ok a, { w with faults := w.faults.tail }.put s) := rfl
  rw [hon]
  cases w.faults.head?.join with
  | some e => exact .inl ⟨e, rfl⟩
  | none =>
    cases change w.content with
    | error e => exact .inl ⟨e, rfl⟩
    | ok result => exact .inr ⟨result.1, result.2, rfl, rfl⟩

end

end Steps

/-! ## Statements of operations -/

open Steps

/-- Inserts a review. -/
def insertReview (r : Review) (s : Store) : Except StoreError (Store × Int) :=
  let id := nextId s.reviews
  let row : ReviewRow :=
    { id
      filename := r.filename
      source := r.source
      createdAt := .ofInstant r.createdAt.instant
      version := r.version
      counts := r.counts }
  s.whenWritable (.ok ({ s with reviews := s.reviews ++ [row] }, id))

/-- Inserts a finding of a review. -/
def insertFinding (review : Int) (place : Nat) (f : Finding) (s : Store) :
    Except StoreError (Store × Int) :=
  let id := nextId s.findings
  let row : FindingRow := { id, review, place, finding := { f with id } }
  s.whenWritable (.ok ({ s with findings := s.findings ++ [row] }, id))

/-- Inserts findings one after the other. In memory each gets its id as soon as it is inserted. -/
def insertFindings (review : Int) (done : List Finding) : List Finding → Steps Unit
  | [] => pure ()
  | f :: fs => do
    let id ← statement (insertFinding review done.length f)
    let done := done ++ [{ f with id }]
    modify fun w => { w with review := { w.review with issues := some (done ++ fs) } }
    insertFindings review done fs

/-- Inserts a review and its findings. -/
def inserting (r : Review) : Steps Int := do
  let id ← (statement (insertReview r)).reporting .reviewNotInserted
  if r.findings.isEmpty then return id
  prepare
  insertFindings id [] r.findings
  return id

/-- Saves the review in memory, which gets its id last of all. -/
def saving (now : Instant) : Steps Review := do
  modify fun w => { w with review := completed now w.review }
  let id ← transaction (inserting (← get).review)
  modify fun w => { w with review := { w.review with id } }
  return (← get).review

/-- Inserts a user. -/
def insertUser (now : Instant) (username : String) (hash : PasswordHash) (role : String) (s : Store) :
    Except StoreError (Store × Int) :=
  let id := nextId s.users
  let row : UserRow :=
    { id, username, hash, createdAt := .ofInstant now
      role := if role = "" then User.viewerRole else role }
  s.whenWritable <|
    if (s.userRow? username).isSome then .error .usernameTaken
    else .ok ({ s with users := s.users ++ [row] }, id)

/-- Stores flags one after the other. -/
def putFlags : List (String × Bool) → Steps Unit
  | [] => pure ()
  | e :: flags => do
    statement fun s =>
      s.whenWritable (.ok ({ s with ruleStates := putState e.1 e.2 s.ruleStates }, ()))
    putFlags flags

/-- Stores flags. -/
def savingFlags (flags : List (String × Bool)) : Steps Unit := do
  if !flags.isEmpty then
    transaction do
      prepare
      putFlags flags

/-- Loads a review: its row, and then its findings. -/
def loading (id : Int) : Steps Review := do
  let row ← look fun s =>
    s.whenOpen (match s.reviewRow? id with
      | none => .error (.noReview id)
      | some row => .ok row)
  let issues ← look (·.listFindings id)
  return { id := row.id
           filename := row.filename
           source := row.source
           createdAt := row.createdAt.load
           version := row.version
           counts := row.counts
           issues }

/-- Ends a session. -/
def endingSession (token : String) : Steps Unit :=
  changingRows (fun s => { s with sessions := s.sessions.filter (·.token != token) })
    fun s => s.sessions.countP (·.token == token)

/-- Revokes a waiver. -/
def revokingWaiver (now : Instant) (id : Int) : Steps Unit :=
  changingRows
    (fun s => { s with
      waivers := s.waivers.map fun row =>
        if revocable id row then { row with revokedAt := some (.ofInstant now) } else row })
    fun s => s.waivers.countP (revocable id)

/-- What an operation answers if it succeeds. -/
inductive Answer where
  | done
  | id (n : Int)
  | found (yes : Bool)
  | review (r : Review)
  | findings (fs : Option (List Finding))
  | entries (es : List ReviewEntry)
  | summary (t : Summary)
  | flags (fs : List (String × Bool))
  | user (u : User)
  | account (u : User) (hash : PasswordHash)
  | waivers (ws : List Waiver)

namespace Operation

/-- What an operation answers. -/
def answer (s : Store) : Operation → Except StoreError Answer
  | save now r => (s.save now r).map fun result => .review result.2
  | load id => (s.load id).map .review
  | findings id => (s.listFindings id).map .findings
  | has id => (s.has id).map .found
  | list limit offset => (s.list limit offset).map .entries
  | summary => s.summary.map .summary
  | states => s.states.map .flags
  | saveStates flags => (s.saveStates flags).map fun _ => .done
  | addUser now username hash role =>
    (s.addUser now username hash role).map fun result => .id result.2
  | user username => (s.user username).map fun result => .account result.1 result.2
  | addSession owner token expires => (s.addSession owner token expires).map fun _ => .done
  | session now token => (s.session now token).map .user
  | endSession token => (s.endSession token).map fun _ => .done
  | addWaiver now rule filename pattern reason createdBy expires =>
    (s.addWaiver now rule filename pattern reason createdBy expires).map fun result => .id result.2
  | revokeWaiver now id => (s.revokeWaiver now id).map fun _ => .done
  | waivers now activeOnly => (s.listWaivers now activeOnly).map .waivers
  | log now username action resource detail =>
    (s.log now username action resource detail).map fun _ => .done
  | close | reopen .. => .ok .done

/-- The review that an operation is given to save. -/
def given : Operation → Review
  | save _ r => r
  | _ => {}

/-- The statements of an operation. -/
def steps : Operation → Steps Answer
  | save now _ => .review <$> saving now
  | load id => .review <$> loading id
  | findings id => .findings <$> look (·.listFindings id)
  | has id => .found <$> look (·.has id)
  | list limit offset => .entries <$> look (·.list limit offset)
  | summary => .summary <$> look (·.summary)
  | states => .flags <$> look (·.states)
  | saveStates flags => (fun _ => .done) <$> savingFlags flags
  | addUser now username hash role =>
    .id <$> (statement (insertUser now username hash role)).reporting (.userNotCreated username)
  | user username => (fun result => .account result.1 result.2) <$> look (·.user username)
  | addSession owner token expires =>
    statement fun s => (s.addSession owner token expires).map (·, .done)
  | session now token => .user <$> look (·.session now token)
  | endSession token => (fun _ => .done) <$> endingSession token
  | addWaiver now rule filename pattern reason createdBy expires =>
    .id <$> statement fun s => s.addWaiver now rule filename pattern reason createdBy expires
  | revokeWaiver now id => (fun _ => .done) <$> revokingWaiver now id
  | waivers now activeOnly => .waivers <$> look (·.listWaivers now activeOnly)
  | log now username action resource detail =>
    statement fun s => (s.log now username action resource detail).map (·, .done)
  | close => (fun _ => .done) <$> (modify fun w => { w with kept := w.kept.close } : Steps PUnit)
  | reopen isWritable locksFirst =>
    (fun _ => .done) <$>
      (modify fun w => { w with kept := w.kept.reopen isWritable locksFirst } : Steps PUnit)

end Operation

/-- An operation, and what fails its statements from outside. -/
structure Call where
  op : Operation
  faults : List (Option StoreError) := []

/-- What a call comes to: its answer, the store then, and the review in memory then. -/
structure Outcome where
  answer : Except StoreError Answer
  store : Store
  review : Review

/-- Runs the statements of a call on a store. -/
def Call.run (c : Call) (s : Store) : Outcome :=
  let (answer, w) := c.op.steps.on { kept := s, review := c.op.given, faults := c.faults }
  ⟨answer, w.kept, w.review⟩

/-- What calls answer, one after the other. -/
def answers (s : Store) : List Call → List (Except StoreError Answer)
  | [] => []
  | c :: cs => (c.run s).answer :: answers (c.run s).store cs

/-! ## Undisturbed operations -/

section

variable {α : Type} (s t : Store) (r : Review)

theorem on_statement_kept (change : Store → Except StoreError (Store × α)) :
    (statement change).on { kept := s, review := r } =
      match change s with
      | .error e => (.error e, { kept := s, review := r })
      | .ok (s', a) => (.ok a, { kept := s', review := r }) := rfl

theorem on_statement_draft (change : Store → Except StoreError (Store × α)) :
    (statement change).on { kept := s, draft := some t, review := r } =
      match change t with
      | .error e => (.error e, { kept := s, draft := some t, review := r })
      | .ok (t', a) => (.ok a, { kept := s, draft := some t', review := r }) := rfl

theorem on_look_kept (f : Store → Except StoreError α) :
    (look f).on { kept := s, review := r } = (f s, { kept := s, review := r }) := by
  rw [look, on_statement_kept]
  cases f s <;> rfl

theorem on_prepare_draft : prepare.on { kept := s, draft := some t, review := r } =
    (.ok (), { kept := s, draft := some t, review := r }) := rfl

theorem on_transaction_of_start_error {e : StoreError} (h : s.start = .error e) (x : Steps α) :
    (transaction x).on { kept := s, review := r } = (.error e, { kept := s, review := r }) := by
  rw [transaction, on_bind, beginning, on_bind, on_look_kept, h]

/-- Steps that succeed undisturbed are committed. -/
theorem on_transaction_of_ok {r' : Review} {a : α} (hstart : s.start = .ok ()) {x : Steps α}
    (h : x.on { kept := s, draft := some s, review := r } =
      (.ok a, { kept := s, draft := some t, review := r' })) :
    (transaction x).on { kept := s, review := r } = (.ok a, { kept := t, review := r' }) := by
  rw [transaction, on_bind, beginning, on_bind, on_look_kept, hstart]
  simp only [on_modify]
  rw [on_ending, on_bind_ok _ h]
  rfl

/-- Steps that fail are taken back. -/
theorem on_transaction_of_error {r' : Review} {e : StoreError} (hstart : s.start = .ok ()) {x : Steps α}
    (h : x.on { kept := s, draft := some s, review := r } =
      (.error e, { kept := s, draft := some t, review := r' })) :
    (transaction x).on { kept := s, review := r } = (.error e, { kept := s, review := r' }) := by
  rw [transaction, on_bind, beginning, on_bind, on_look_kept, hstart]
  simp only [on_modify]
  rw [on_ending, on_bind_error _ h]
  rfl

end

/-- The loop over findings gives them the next ids, in the draft and in memory. -/
theorem on_insertFindings {s t : Store} (hopen : t.isOpen = true) (hwritable : t.isWritable = true)
    (review : Int) (done fs : List Finding) {r : Review} (hr : r.issues = some (done ++ fs)) :
    (insertFindings review done fs).on { kept := s, draft := some t, review := r } =
      (.ok (), {
        kept := s
        draft := some { t with
          findings := t.findings ++
            findingRows review done.length (withIds (nextId t.findings) fs) }
        review := { r with issues := some (done ++ withIds (nextId t.findings) fs) } }) := by
  induction fs generalizing done t r with
  | nil =>
    have hmemory : { r with issues := some done } = r := by rw [← List.append_nil done, ← hr]
    simp [insertFindings, withIds, findingRows, hmemory]
  | cons f fs ih =>
    rw [insertFindings, on_bind, on_statement_draft, insertFinding, whenWritable, whenOpen,
      if_pos hopen, if_pos hwritable]
    have hnext (row : FindingRow) : nextId (t.findings ++ [row]) = nextId t.findings + 1 := by
      simp [nextId]
    refine Eq.trans (ih ?_ ?_ _ ?_) ?_
    · exact hopen
    · exact hwritable
    · rfl
    · simp [withIds, findingRows, hnext, List.append_assoc]

theorem on_putFlags {s t : Store} (hopen : t.isOpen = true) (hwritable : t.isWritable = true)
    (flags : List (String × Bool)) (r : Review) :
    (putFlags flags).on { kept := s, draft := some t, review := r } =
      (.ok (), {
        kept := s
        draft := some { t with
          ruleStates := flags.foldl (fun known e => putState e.1 e.2 known) t.ruleStates }
        review := r }) := by
  induction flags generalizing t with
  | nil => rfl
  | cons e flags ih =>
    rw [putFlags, on_bind, on_statement_draft, whenWritable, whenOpen, if_pos hopen,
      if_pos hwritable]
    exact ih hopen hwritable

theorem start_of_writable {s : Store} (hopen : s.isOpen = true) (hwritable : s.isWritable = true) :
    s.start = .ok () := by
  simp [start, whenOpen, hopen, hwritable]

/-- Inserting a review makes the draft the store with that review, and its findings get their ids in
memory. -/
theorem on_inserting {s : Store} (hopen : s.isOpen = true) (hwritable : s.isWritable = true)
    (now : Instant) (r : Review) :
    (inserting (completed now r)).on { kept := s, draft := some s, review := completed now r } =
      (.ok (nextId s.reviews), {
        kept := s
        draft := some (s.withReview now r)
        review := { completed now r with issues := r.issues.map (withIds (nextId s.findings)) } }) := by
  have hinsert : (statement (insertReview (completed now r))).on
      { kept := s, draft := some s, review := completed now r } =
      (.ok (nextId s.reviews), {
        kept := s
        draft := some { s with reviews := s.reviews ++ [s.nextRow now r] }
        review := completed now r }) := by
    rw [on_statement_draft, insertReview, whenWritable, whenOpen, if_pos hopen, if_pos hwritable]
    rfl
  have hfindings : (completed now r).findings = r.findings := rfl
  rw [inserting, on_bind, on_reporting, hinsert, hfindings]
  simp only [mapError_ok]
  cases hfs : r.findings with
  | nil =>
    have hissues : r.issues.map (withIds (nextId s.findings)) = r.issues := by
      unfold Review.findings at hfs
      cases h : r.issues with
      | none => rfl
      | some fs => simp_all [withIds]
    simp [withReview, nextFindings, hfs, hissues, withIds, findingRows]
    rfl
  | cons f fs =>
    have hissues : r.issues = some (f :: fs) := by
      unfold Review.findings at hfs
      cases h : r.issues with
      | none => simp [h] at hfs
      | some fs => simpa [h] using hfs
    rw [if_neg (by simp), on_bind, on_prepare_draft]
    simp only [on_bind]
    rw [on_insertFindings (by exact hopen) (by exact hwritable) _ _ _ (by exact hissues)]
    simp [withReview, nextFindings, hfs, hissues]

theorem on_saving (s : Store) (now : Instant) (r : Review) :
    (saving now).on { kept := s, review := r } =
      match s.save now r with
      | .ok (s', saved) => (.ok saved, { kept := s', review := saved })
      | .error e => (.error e, { kept := s, review := completed now r }) := by
  rw [saving, on_bind_ok _ (on_modify _ _), on_bind_ok _ (on_get _)]
  by_cases hopen : s.isOpen = true
  · by_cases hwritable : s.isWritable = true
    · have hsave : s.save now r = .ok (s.withReview now r, s.savedReview now r) :=
        save_eq_ok_iff.mpr ⟨hopen, hwritable, rfl⟩
      rw [on_bind_ok _ (on_transaction_of_ok _ _ _ (start_of_writable hopen hwritable)
        (on_inserting hopen hwritable now r)), hsave]
      rfl
    · have hreadOnly : s.isWritable = false := by simpa using hwritable
      cases hlock : s.locksFirst with
      | true =>
        have hstart : s.start = .error .readOnly := by simp [start, whenOpen, hopen, hreadOnly, hlock]
        rw [on_bind_error _ (on_transaction_of_start_error _ _ hstart _)]
        simp [save, whenOpen, hopen, hreadOnly, hlock]
      | false =>
        have hstart : s.start = .ok () := by simp [start, whenOpen, hopen, hlock]
        have hinsert : (inserting (completed now r)).on
            { kept := s, draft := some s, review := completed now r } =
            (.error (.reviewNotInserted .readOnly),
              { kept := s, draft := some s, review := completed now r }) := by
          rw [inserting, on_bind, on_reporting, on_statement_draft, insertReview, whenWritable,
            whenOpen, if_pos hopen, hreadOnly]
          rfl
        rw [on_bind_error _ (on_transaction_of_error _ _ _ hstart hinsert)]
        simp [save, whenOpen, hopen, hreadOnly, hlock]
  · have hstart : s.start = .error .closed := by simp [start, whenOpen, hopen]
    rw [on_bind_error _ (on_transaction_of_start_error _ _ hstart _)]
    simp [save, whenOpen, hopen]

theorem on_savingFlags (s : Store) (flags : List (String × Bool)) (r : Review) :
    (savingFlags flags).on { kept := s, review := r } =
      match s.saveStates flags with
      | .ok s' => (.ok (), { kept := s', review := r })
      | .error e => (.error e, { kept := s, review := r }) := by
  cases flags with
  | nil => rfl
  | cons e flags =>
    have hprepared := on_prepare_draft s s r
    simp only [savingFlags, List.isEmpty_cons, Bool.not_false, if_true]
    by_cases hopen : s.isOpen = true
    · by_cases hwritable : s.isWritable = true
      · have hput := (on_bind_ok _ hprepared fun _ => putFlags (e :: flags)).trans
          (on_putFlags hopen hwritable (e :: flags) r)
        rw [on_transaction_of_ok _ _ _ (start_of_writable hopen hwritable) hput]
        simp [saveStates, whenWritable, whenOpen, hopen, hwritable]
      · have hreadOnly : s.isWritable = false := by simpa using hwritable
        have hput : (putFlags (e :: flags)).on { kept := s, draft := some s, review := r } =
            (.error .readOnly, { kept := s, draft := some s, review := r }) := by
          refine on_bind_error _ ?_ _
          rw [on_statement_draft, whenWritable, whenOpen, if_pos hopen, hreadOnly]
          rfl
        have hbody := (on_bind_ok _ hprepared fun _ => putFlags (e :: flags)).trans hput
        have hsave : s.saveStates (e :: flags) = .error .readOnly := by
          simp [saveStates, whenWritable, whenOpen, hopen, hreadOnly]
        cases hlock : s.locksFirst with
        | true =>
          have hstart : s.start = .error .readOnly := by simp [start, whenOpen, hopen, hreadOnly, hlock]
          rw [on_transaction_of_start_error _ _ hstart, hsave]
        | false =>
          have hstart : s.start = .ok () := by simp [start, whenOpen, hopen, hlock]
          rw [on_transaction_of_error _ _ _ hstart hbody, hsave]
    · have hstart : s.start = .error .closed := by simp [start, whenOpen, hopen]
      rw [on_transaction_of_start_error _ _ hstart]
      simp [saveStates, whenWritable, whenOpen, hopen]

theorem on_loading (s : Store) (id : Int) (r : Review) :
    (loading id).on { kept := s, review := r } = (s.load id, { kept := s, review := r }) := by
  by_cases hopen : s.isOpen = true
  · cases hrow : s.reviewRow? id with
    | none =>
      rw [load, whenOpen, if_pos hopen, hrow]
      refine on_bind_error _ ?_ _
      rw [on_look_kept, whenOpen, if_pos hopen, hrow]
    | some row =>
      have hlook := on_look_kept s r fun t => t.whenOpen (match t.reviewRow? id with
        | none => .error (.noReview id)
        | some row => .ok row)
      rw [whenOpen, if_pos hopen, hrow] at hlook
      rw [loading, on_bind_ok _ hlook, load, whenOpen, if_pos hopen, hrow, on_bind, on_look_kept]
      cases s.listFindings id <;> rfl
  · rw [load, whenOpen, if_neg hopen]
    refine on_bind_error _ ?_ _
    rw [on_look_kept, whenOpen, if_neg hopen]

/-- A statement that changes none of its rows leaves the store as it was. -/
theorem on_changingRows (s : Store) (r : Review) {change : Store → Store} {rows : Store → Nat}
    (hsame : rows s = 0 → change s = s) :
    (changingRows change rows).on { kept := s, review := r } =
      match s.whenWritable (if rows s = 0 then .error .nothingChanged else .ok (change s)) with
      | .ok s' => (.ok (), { kept := s', review := r })
      | .error e => (.error e, { kept := s, review := r }) := by
  rw [changingRows, on_bind, on_statement_kept]
  unfold whenWritable whenOpen
  by_cases hopen : s.isOpen = true
  · by_cases hwritable : s.isWritable = true
    · by_cases hrows : rows s = 0
      · simp [hopen, hwritable, hrows, hsame hrows]
      · simp [hopen, hwritable, hrows]
    · simp [hopen, hwritable]
  · simp [hopen]

theorem endSession_eq (s : Store) (token : String) :
    s.endSession token = s.whenWritable
      (if s.sessions.countP (·.token == token) = 0 then .error .nothingChanged
        else .ok { s with sessions := s.sessions.filter (·.token != token) }) := by
  rw [endSession, sessionRow?]
  congr 1
  by_cases h : s.sessions.countP (·.token == token) = 0
  · have hnone : s.sessions.find? (·.token == token) = none :=
      List.find?_eq_none.mpr (List.countP_eq_zero.mp h)
    simp [h, hnone]
  · have hsome : (s.sessions.find? (·.token == token)).isSome = true := by
      rw [List.find?_isSome]
      exact List.countP_pos_iff.mp (Nat.pos_of_ne_zero h)
    simp [h, hsome]

theorem revokeWaiver_eq (s : Store) (now : Instant) (id : Int) :
    s.revokeWaiver now id = s.whenWritable
      (if s.waivers.countP (revocable id) = 0 then .error .nothingChanged
        else .ok { s with
          waivers := s.waivers.map fun row =>
            if revocable id row then { row with revokedAt := some (.ofInstant now) } else row }) := by
  rw [revokeWaiver]
  congr 1
  by_cases h : s.waivers.countP (revocable id) = 0
  · have hnone : s.waivers.any (revocable id) = false := by
      simpa using List.countP_eq_zero.mp h
    simp [h, hnone]
  · have hsome : s.waivers.any (revocable id) = true :=
      List.any_eq_true.mpr (List.countP_pos_iff.mp (Nat.pos_of_ne_zero h))
    simp [h, hsome]

/-- Without a session of the token, the statement that ends it changes nothing. -/
theorem filter_token_eq_self {s : Store} {token : String}
    (h : s.sessions.countP (·.token == token) = 0) :
    { s with sessions := s.sessions.filter (·.token != token) } = s := by
  have hfilter : s.sessions.filter (·.token != token) = s.sessions :=
    List.filter_eq_self.mpr fun row hrow => by simpa using List.countP_eq_zero.mp h row hrow
  rw [hfilter]

/-- Without a waiver that can be revoked, the statement that revokes it changes nothing. -/
theorem map_revocable_eq_self {s : Store} {now : Instant} {id : Int}
    (h : s.waivers.countP (revocable id) = 0) :
    { s with
      waivers := s.waivers.map fun row =>
        if revocable id row then { row with revokedAt := some (.ofInstant now) } else row } = s := by
  have hmap : (s.waivers.map fun row =>
      if revocable id row then { row with revokedAt := some (.ofInstant now) } else row) = s.waivers :=
    (List.map_congr_left fun row hrow => if_neg (List.countP_eq_zero.mp h row hrow)).trans
      (List.map_id' _)
  rw [hmap]

theorem on_endingSession (s : Store) (token : String) (r : Review) :
    (endingSession token).on { kept := s, review := r } =
      match s.endSession token with
      | .ok s' => (.ok (), { kept := s', review := r })
      | .error e => (.error e, { kept := s, review := r }) := by
  rw [endSession_eq]
  exact on_changingRows s r filter_token_eq_self

theorem on_revokingWaiver (s : Store) (now : Instant) (id : Int) (r : Review) :
    (revokingWaiver now id).on { kept := s, review := r } =
      match s.revokeWaiver now id with
      | .ok s' => (.ok (), { kept := s', review := r })
      | .error e => (.error e, { kept := s, review := r }) := by
  rw [revokeWaiver_eq]
  exact on_changingRows s r map_revocable_eq_self

theorem perform_of_look {α : Type} {s : Store} {op : Operation} {result : Except StoreError α}
    (h : op.run s = result.map fun _ => s) : s.perform op = s := by
  rw [perform, h]
  cases result <;> rfl

theorem Call.run_undisturbed (op : Operation) (s : Store) :
    (Call.run ⟨op, []⟩ s).answer = op.answer s ∧ (Call.run ⟨op, []⟩ s).store = s.perform op := by
  cases op with
  | save now r =>
    simp only [Call.run, Operation.steps, Operation.given, on_map, on_saving, Operation.answer,
      perform, Operation.run]
    cases s.save now r <;> exact ⟨rfl, rfl⟩
  | load id =>
    simp only [Call.run, Operation.steps, Operation.given, on_map, on_loading, Operation.answer]
    exact ⟨trivial, (perform_of_look rfl).symm⟩
  | findings | has | list | summary | states | user | session | waivers =>
    simp only [Call.run, Operation.steps, Operation.given, on_map, on_look_kept, Operation.answer]
    exact ⟨trivial, (perform_of_look rfl).symm⟩
  | saveStates flags =>
    simp only [Call.run, Operation.steps, Operation.given, on_map, on_savingFlags, Operation.answer,
      perform, Operation.run]
    cases s.saveStates flags <;> exact ⟨rfl, rfl⟩
  | endSession token =>
    simp only [Call.run, Operation.steps, Operation.given, on_map, on_endingSession, Operation.answer,
      perform, Operation.run]
    cases s.endSession token <;> exact ⟨rfl, rfl⟩
  | revokeWaiver now id =>
    simp only [Call.run, Operation.steps, Operation.given, on_map, on_revokingWaiver, Operation.answer,
      perform, Operation.run]
    cases s.revokeWaiver now id <;> exact ⟨rfl, rfl⟩
  | addUser now username hash role =>
    have hadd : s.addUser now username hash role =
      (insertUser now username hash role s).mapError (.userNotCreated username) := rfl
    simp only [Call.run, Operation.steps, Operation.given, on_map, on_reporting, on_statement_kept,
      Operation.answer, perform, Operation.run, hadd]
    cases insertUser now username hash role s <;> exact ⟨rfl, rfl⟩
  | addSession owner token expires =>
    simp only [Call.run, Operation.steps, Operation.given, on_statement_kept, Operation.answer,
      perform, Operation.run]
    cases s.addSession owner token expires <;> exact ⟨rfl, rfl⟩
  | addWaiver now rule filename pattern reason createdBy expires =>
    simp only [Call.run, Operation.steps, Operation.given, on_map, on_statement_kept, Operation.answer,
      perform, Operation.run]
    cases s.addWaiver now rule filename pattern reason createdBy expires <;> exact ⟨rfl, rfl⟩
  | log now username action resource detail =>
    simp only [Call.run, Operation.steps, Operation.given, on_statement_kept, Operation.answer,
      perform, Operation.run]
    cases s.log now username action resource detail <;> exact ⟨rfl, rfl⟩
  | close | reopen => exact ⟨rfl, rfl⟩

end JavaReview.Store
