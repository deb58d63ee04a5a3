import JavaReview.Proofs.Basic
import JavaReview.Store.Reviews
import JavaReview.Store.RuleStates
import JavaReview.Store.Users
import JavaReview.Store.Waivers

/-!
Operations of a store and what they can do to it. An operation is data, `Store.performAll` runs a list
of them, and `Store.Changes` says once and for all what one operation can change:
`Store.changes_perform`. Invariants of stores are proved against `Changes` and never look into an
operation.
-/

namespace JavaReview

namespace Store

/-- An operation of a store with its arguments. -/
inductive Operation where
  | save (now : Instant) (r : Review)
  | load (id : Int)
  | findings (id : Int)
  | has (id : Int)
  | list (limit offset : Int)
  | summary
  | states
  | saveStates (flags : List (String × Bool))
  | addUser (now : Instant) (username : String) (hash : PasswordHash) (role : String)
  | user (username : String)
  | addSession (owner : Int) (token : String) (expires : Instant)
  | session (now : Instant) (token : String)
  | endSession (token : String)
  | addWaiver (now : Instant) (rule filename pattern reason createdBy : String) (expires : Instant)
  | revokeWaiver (now : Instant) (id : Int)
  | waivers (now : Instant) (activeOnly : Bool)
  | log (now : Instant) (username action resource : String) (detail : Json)
  | close
  | reopen (isWritable locksFirst : Bool)

/-- The store after an operation, or why the operation failed. -/
def Operation.run (s : Store) : Operation → Except StoreError Store
  | save now r => (s.save now r).map (·.1)
  | load id => (s.load id).map fun _ => s
  | findings id => (s.listFindings id).map fun _ => s
  | has id => (s.has id).map fun _ => s
  | list limit offset => (s.list limit offset).map fun _ => s
  | summary => s.summary.map fun _ => s
  | states => s.states.map fun _ => s
  | saveStates flags => s.saveStates flags
  | addUser now username hash role => (s.addUser now username hash role).map (·.1)
  | user username => (s.user username).map fun _ => s
  | addSession owner token expires => s.addSession owner token expires
  | session now token => (s.session now token).map fun _ => s
  | endSession token => s.endSession token
  | addWaiver now rule filename pattern reason createdBy expires =>
    (s.addWaiver now rule filename pattern reason createdBy expires).map (·.1)
  | revokeWaiver now id => s.revokeWaiver now id
  | waivers now activeOnly => (s.listWaivers now activeOnly).map fun _ => s
  | log now username action resource detail => s.log now username action resource detail
  | close => .ok s.close
  | reopen isWritable locksFirst => .ok (s.reopen isWritable locksFirst)

/-- The store after an operation. One that fails leaves the store as it is. -/
def perform (s : Store) (op : Operation) : Store :=
  match op.run s with
  | .ok s' => s'
  | .error _ => s

/-- The store after operations, one after the other. -/
def performAll (s : Store) (ops : List Operation) : Store := ops.foldl perform s

@[simp] theorem performAll_nil (s : Store) : s.performAll [] = s := rfl

@[simp] theorem performAll_cons (s : Store) (op : Operation) (ops : List Operation) :
    s.performAll (op :: ops) = (s.perform op).performAll ops := rfl

theorem performAll_append (s : Store) (ops ops' : List Operation) :
    s.performAll (ops ++ ops') = (s.performAll ops).performAll ops' :=
  List.foldl_append

theorem perform_of_run {s s' : Store} {op : Operation} (h : op.run s = .ok s') :
    s.perform op = s' := by
  rw [perform, h]

/-! ## Guards -/

theorem whenOpen_eq_ok_iff {α : Type} {s : Store} {result : Except StoreError α} {a : α} :
    s.whenOpen result = .ok a ↔ s.isOpen = true ∧ result = .ok a := by
  unfold whenOpen
  by_cases hopen : s.isOpen = true <;> simp [hopen]

theorem whenWritable_eq_ok_iff {α : Type} {s : Store} {result : Except StoreError α} {a : α} :
    s.whenWritable result = .ok a ↔ s.isOpen = true ∧ s.isWritable = true ∧ result = .ok a := by
  rw [whenWritable, whenOpen_eq_ok_iff]
  by_cases hwritable : s.isWritable = true <;> simp [hwritable]

/-! ## Saving a review -/

/-- The row of the review that is saved next. -/
def nextRow (s : Store) (now : Instant) (r : Review) : ReviewRow where
  id := nextId s.reviews
  filename := (completed now r).filename
  source := r.source
  createdAt := .ofInstant (completed now r).createdAt.instant
  version := (completed now r).version
  counts := .tally r.findings

/-- The findings of the review that is saved next, with their ids. -/
def nextFindings (s : Store) (r : Review) : List Finding := withIds (nextId s.findings) r.findings

/-- The store with one more review. -/
def withReview (s : Store) (now : Instant) (r : Review) : Store :=
  { s with
    reviews := s.reviews ++ [s.nextRow now r]
    findings := s.findings ++ findingRows (nextId s.reviews) 0 (s.nextFindings r) }

/-- A review as saving leaves it. -/
def savedReview (s : Store) (now : Instant) (r : Review) : Review :=
  { completed now r with
    id := nextId s.reviews
    issues := r.issues.map (withIds (nextId s.findings)) }

theorem findings_savedReview (s : Store) (now : Instant) (r : Review) :
    (s.savedReview now r).findings = s.nextFindings r := by
  unfold savedReview nextFindings Review.findings
  cases r.issues <;> rfl

theorem save_eq_ok_iff {s : Store} {now : Instant} {r : Review} {result : Store × Review} :
    s.save now r = .ok result ↔ s.isOpen = true ∧ s.isWritable = true ∧
      (s.withReview now r, s.savedReview now r) = result := by
  have hrows : ((completed now r).issues.map (withIds (nextId s.findings))).getD [] =
      s.nextFindings r := findings_savedReview s now r
  simp only [save, whenOpen_eq_ok_iff, hrows]
  refine and_congr_right fun _ => ?_
  by_cases hwritable : s.isWritable = true
  · rw [if_neg (by simp [hwritable]), Except.ok.injEq]
    exact ⟨fun h => ⟨hwritable, h⟩, fun h => h.2⟩
  · simp [hwritable]

/-! ## What an operation can change -/

/-- What an operation can make of a store. -/
inductive Changes (s : Store) : Operation → Store → Prop
  | nothing (op : Operation) : Changes s op s
  | review (now : Instant) (r : Review) : Changes s (.save now r) (s.withReview now r)
  | flags (flags : List (String × Bool)) :
      Changes s (.saveStates flags) { s with
        ruleStates := flags.foldl (fun known e => putState e.1 e.2 known) s.ruleStates }
  | user {now : Instant} {username role : String} {hash : PasswordHash} (row : UserRow) :
      row.id = nextId s.users → s.userRow? row.username = none →
      Changes s (.addUser now username hash role) { s with users := s.users ++ [row] }
  | session {owner : Int} {token : String} {expires : Instant} (row : SessionRow) :
      s.sessionRow? row.token = none → (∃ user ∈ s.users, user.id = row.user) →
      Changes s (.addSession owner token expires) { s with sessions := s.sessions ++ [row] }
  | sessionEnd (token : String) :
      Changes s (.endSession token) { s with sessions := s.sessions.filter (·.token != token) }
  | waiver {now expires : Instant} {rule filename pattern reason createdBy : String}
      (row : WaiverRow) : row.id = nextId s.waivers →
      Changes s (.addWaiver now rule filename pattern reason createdBy expires)
        { s with waivers := s.waivers ++ [row] }
  | revocation (now : Instant) (id : Int) :
      Changes s (.revokeWaiver now id) { s with
        waivers := s.waivers.map fun row =>
          if revocable id row then { row with revokedAt := some (.ofInstant now) } else row }
  | note {now : Instant} {username action resource : String} {detail : Json} (row : AuditRow) :
      Changes s (.log now username action resource detail) { s with audit := s.audit ++ [row] }
  | closing : Changes s .close s.close
  | reopening (isWritable locksFirst : Bool) :
      Changes s (.reopen isWritable locksFirst) (s.reopen isWritable locksFirst)

theorem changes_saveStates {s s' : Store} {flags : List (String × Bool)}
    (h : s.saveStates flags = .ok s') : Changes s (.saveStates flags) s' := by
  unfold saveStates at h
  split at h
  · cases h
    exact .nothing _
  · obtain ⟨-, -, h⟩ := whenWritable_eq_ok_iff.mp h
    cases h
    exact .flags flags

theorem changes_addUser {s : Store} {now : Instant} {username role : String} {hash : PasswordHash}
    {result : Store × Int} (h : s.addUser now username hash role = .ok result) :
    Changes s (.addUser now username hash role) result.1 := by
  obtain ⟨-, -, h⟩ := whenWritable_eq_ok_iff.mp (mapError_eq_ok_iff.mp h)
  split at h
  next => cases h
  next hfree =>
    cases h
    exact .user _ rfl (by simpa using hfree)

theorem changes_addSession {s s' : Store} {owner : Int} {token : String} {expires : Instant}
    (h : s.addSession owner token expires = .ok s') :
    Changes s (.addSession owner token expires) s' := by
  obtain ⟨-, -, h⟩ := whenWritable_eq_ok_iff.mp h
  split at h
  next => cases h
  next hfree =>
    split at h
    next => cases h
    next hknown =>
      cases h
      exact .session _ (by simpa using hfree) (by simpa using hknown)

theorem changes_endSession {s s' : Store} {token : String} (h : s.endSession token = .ok s') :
    Changes s (.endSession token) s' := by
  obtain ⟨-, -, h⟩ := whenWritable_eq_ok_iff.mp h
  split at h
  · cases h
    exact .sessionEnd token
  · cases h

theorem changes_revokeWaiver {s s' : Store} {now : Instant} {id : Int}
    (h : s.revokeWaiver now id = .ok s') : Changes s (.revokeWaiver now id) s' := by
  obtain ⟨-, -, h⟩ := whenWritable_eq_ok_iff.mp h
  split at h
  · cases h
    exact .revocation now id
  · cases h

theorem changes_run {s s' : Store} {op : Operation} (h : op.run s = .ok s') : Changes s op s' := by
  cases op with
  | save now r =>
    obtain ⟨_, hsave, rfl⟩ := map_eq_ok_iff.mp h
    obtain ⟨-, -, rfl⟩ := save_eq_ok_iff.mp hsave
    exact .review now r
  | load | findings | has | list | summary | states | user | session | waivers =>
    obtain ⟨_, -, rfl⟩ := map_eq_ok_iff.mp h
    exact .nothing _
  | saveStates flags => exact changes_saveStates h
  | addUser now username hash role =>
    obtain ⟨_, hadd, rfl⟩ := map_eq_ok_iff.mp h
    exact changes_addUser hadd
  | addSession owner token expires => exact changes_addSession h
  | endSession token => exact changes_endSession h
  | addWaiver now rule filename pattern reason createdBy expires =>
    obtain ⟨_, hadd, rfl⟩ := map_eq_ok_iff.mp h
    obtain ⟨-, -, hadd⟩ := whenWritable_eq_ok_iff.mp hadd
    cases hadd
    exact .waiver _ rfl
  | revokeWaiver now id => exact changes_revokeWaiver h
  | log now username action resource detail =>
    obtain ⟨-, -, h⟩ := whenWritable_eq_ok_iff.mp h
    cases h
    exact .note _
  | close =>
    cases h
    exact .closing
  | reopen isWritable locksFirst =>
    cases h
    exact .reopening isWritable locksFirst

theorem changes_perform (s : Store) (op : Operation) : Changes s op (s.perform op) := by
  unfold perform
  split
  · exact changes_run ‹_›
  · exact .nothing op

/-- What the changes of all operations keep is kept by their run. -/
theorem performAll_induction {P : Store → Prop} {ops : List Operation}
    (step : ∀ op ∈ ops, ∀ {s s'}, Changes s op s' → P s → P s') {s : Store} (h : P s) :
    P (s.performAll ops) := by
  induction ops generalizing s with
  | nil => exact h
  | cons op ops ih =>
    have hfirst : P (s.perform op) := step op List.mem_cons_self (changes_perform s op) h
    exact ih (fun op' hop' => step op' (List.mem_cons_of_mem _ hop')) hfirst

end Store

end JavaReview
