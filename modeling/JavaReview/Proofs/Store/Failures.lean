import JavaReview.Proofs.Store.Statements

/-!
Operations that fail leave no trace (`Store.failsCleanly`). Inside a transaction nothing reaches what is
kept (`Steps.StaysWithin`), and a transaction with a step that fails, or that cannot be committed, is
dropped; what is refused after it was done has changed nothing (`Steps.leavesNoTrace_changingRows`). So an
operation can fail at any of its statements, and the store is as before. `Store.Refuses` lists why one fails by itself.
-/

namespace JavaReview.Store

/-! ## Inside a transaction -/

/-- Work that went on inside a transaction: what is kept stays, and so does the id of the review in
memory. -/
structure Work.Within (w w' : Work) : Prop where
  kept_eq : w'.kept = w.kept
  still_open : w'.draft.isSome = true
  review_id : w'.review.id = w.review.id

theorem Work.Within.trans {w w' w'' : Work} (h : w.Within w') (h' : w'.Within w'') : w.Within w'' where
  kept_eq := h'.kept_eq.trans h.kept_eq
  still_open := h'.still_open
  review_id := h'.review_id.trans h.review_id

namespace Steps

variable {α β : Type} {x : Steps α}

/-- Steps that stay inside an open transaction. -/
def StaysWithin (x : Steps α) : Prop := ∀ w : Work, w.draft.isSome = true → w.Within (x.on w).2

theorem staysWithin_pure (a : α) : StaysWithin (pure a) := fun _ h => ⟨rfl, h, rfl⟩

theorem staysWithin_statement (change : Store → Except StoreError (Store × α)) :
    (statement change).StaysWithin := by
  intro w h
  obtain ⟨e, hon⟩ | ⟨s, a, -, hon⟩ := on_statement_cases w change
  · rw [hon]
    exact ⟨rfl, h, rfl⟩
  · rw [hon, Work.put, if_pos h]
    exact ⟨rfl, rfl, rfl⟩

theorem StaysWithin.bind {k : α → Steps β} (hx : x.StaysWithin) (hk : ∀ a, (k a).StaysWithin) :
    (x >>= k).StaysWithin := by
  intro w h
  have hfirst := hx w h
  rw [on_bind]
  generalize x.on w = p at hfirst ⊢
  obtain ⟨result, w'⟩ := p
  cases result with
  | error e => exact hfirst
  | ok a => exact hfirst.trans (hk a w' hfirst.still_open)

theorem staysWithin_insertFindings (review : Int) (done fs : List Finding) :
    (insertFindings review done fs).StaysWithin := by
  induction fs generalizing done with
  | nil => exact staysWithin_pure ()
  | cons f fs ih =>
    refine (staysWithin_statement _).bind fun id => ?_
    have hmemory (issues : List Finding) : StaysWithin
        (modify fun w => { w with review := { w.review with issues := some issues } }) :=
      fun _ h => ⟨rfl, h, rfl⟩
    exact (hmemory _).bind fun _ => ih _

theorem staysWithin_inserting (r : Review) : (inserting r).StaysWithin := by
  have hinsert : ((statement (insertReview r)).reporting .reviewNotInserted).StaysWithin :=
    fun w h => staysWithin_statement (insertReview r) w h
  refine hinsert.bind fun id => ?_
  split
  · exact staysWithin_pure id
  · have hprepare : prepare.StaysWithin := staysWithin_statement _
    refine hprepare.bind fun _ => ?_
    exact (staysWithin_insertFindings id [] _).bind fun _ => staysWithin_pure id

theorem staysWithin_putFlags (flags : List (String × Bool)) : (putFlags flags).StaysWithin := by
  induction flags with
  | nil => exact staysWithin_pure ()
  | cons e flags ih => exact (staysWithin_statement _).bind fun _ => ih

/-! ## Failures -/

/-- Steps that leave no trace when they fail: what is kept is as before, and so is the id of the review in
memory. -/
def LeavesNoTrace (x : Steps α) : Prop :=
  ∀ (w : Work) e w', w.draft = none → x.on w = (.error e, w') →
    w'.kept = w.kept ∧ w'.review.id = w.review.id

theorem leavesNoTrace_statement (change : Store → Except StoreError (Store × α)) :
    (statement change).LeavesNoTrace := by
  intro w e w' _ h
  obtain ⟨e', hon⟩ | ⟨s, a, -, hon⟩ := on_statement_cases w change
  · rw [hon] at h
    cases h
    exact ⟨rfl, rfl⟩
  · rw [hon] at h
    cases h

theorem LeavesNoTrace.map (hx : x.LeavesNoTrace) (f : α → β) : LeavesNoTrace (f <$> x) := by
  intro w e w' hw h
  have hfirst := hx w e w' hw
  rw [on_map] at h
  generalize x.on w = p at hfirst h
  obtain ⟨result, w''⟩ := p
  cases result with
  | error e' =>
    cases h
    exact hfirst rfl
  | ok a => cases h

theorem LeavesNoTrace.reporting (hx : x.LeavesNoTrace) (form : StoreError → StoreError) :
    (x.reporting form).LeavesNoTrace := by
  intro w e w' hw h
  have hfirst := fun e => hx w e w' hw
  rw [on_reporting] at h
  generalize x.on w = p at hfirst h
  obtain ⟨result, w''⟩ := p
  cases result with
  | error e' =>
    cases h
    exact hfirst e' rfl
  | ok a => cases h

/-- A statement that only reads leaves the work as it was, but for the reasons to fail. -/
theorem on_look (f : Store → Except StoreError α) (w : Work) :
    ∃ result, (look f).on w = (result, { w with faults := w.faults.tail }) := by
  obtain ⟨e, hon⟩ | ⟨s, a, hchange, hon⟩ := on_statement_cases w fun s => (f s).map (s, ·)
  · exact ⟨_, hon⟩
  · obtain ⟨_, -, hresult⟩ := map_eq_ok_iff.mp hchange
    cases hresult
    refine ⟨.ok a, hon.trans ?_⟩
    cases hdraft : w.draft <;> simp [Work.put, Work.content, hdraft]

theorem LeavesNoTrace.look_bind {k : α → Steps β} (hk : ∀ a, (k a).LeavesNoTrace)
    (f : Store → Except StoreError α) : (look f >>= k).LeavesNoTrace := by
  intro w e w' hw h
  obtain ⟨result, hlook⟩ := on_look f w
  cases result with
  | error e' =>
    rw [on_bind_error w hlook] at h
    cases h
    exact ⟨rfl, rfl⟩
  | ok a =>
    rw [on_bind_ok w hlook] at h
    exact hk a { w with faults := w.faults.tail } e w' hw h

/-- A transaction is taken back if one of its steps fails or if it cannot be committed. -/
theorem StaysWithin.transaction (hx : x.StaysWithin) : (transaction x).LeavesNoTrace := by
  unfold Steps.transaction beginning
  rw [bind_assoc]
  refine LeavesNoTrace.look_bind (fun _ => ?_) start
  intro w e w' hw h
  rw [on_bind_ok w (on_modify w _)] at h
  have hcommitting : committing.StaysWithin := staysWithin_statement _
  have hwithin := (hx.bind fun a => hcommitting.bind fun _ => staysWithin_pure a)
    { w with draft := some w.kept } rfl
  rw [on_ending] at h
  generalize Steps.on (do let a ← x; committing; return a) { w with draft := some w.kept } = p
    at hwithin h
  obtain ⟨result, w''⟩ := p
  cases result with
  | error e' =>
    cases h
    exact ⟨hwithin.kept_eq, hwithin.review_id⟩
  | ok a => cases h

/-- A statement is refused after it was done only if it changed nothing. -/
theorem leavesNoTrace_changingRows {change : Store → Store} {rows : Store → Nat}
    (hsame : ∀ s, rows s = 0 → change s = s) : (changingRows change rows).LeavesNoTrace := by
  intro w e w' hw h
  rw [changingRows] at h
  obtain ⟨e', hon⟩ | ⟨s, n, hchange, hon⟩ :=
    on_statement_cases w fun s => s.whenWritable (.ok (change s, rows s))
  · rw [on_bind_error w hon] at h
    cases h
    exact ⟨rfl, rfl⟩
  · rw [on_bind_ok w hon] at h
    obtain ⟨-, -, hresult⟩ := whenWritable_eq_ok_iff.mp hchange
    cases hresult
    split at h
    next hnone =>
      cases h
      have hcontent : w.content = w.kept := by simp [Work.content, hw]
      rw [hcontent] at hnone
      simp [Work.put, hw, hcontent, hsame _ hnone]
    next => cases h

theorem leavesNoTrace_saving (now : Instant) : (saving now).LeavesNoTrace := by
  intro w e w' hw h
  rw [saving, on_bind_ok w (on_modify w _), on_bind_ok _ (on_get _)] at h
  generalize hstart : { w with review := completed now w.review } = start at h
  have hbody := (staysWithin_inserting start.review).transaction
  cases htransaction : (transaction (inserting start.review)).on start with
  | mk result w'' =>
    cases result with
    | error e' =>
      rw [on_bind_error _ htransaction] at h
      cases h
      obtain ⟨hkept, hid⟩ := hbody start e w' (hstart ▸ hw) htransaction
      rw [hkept, hid, ← hstart]
      exact ⟨rfl, rfl⟩
    | ok id =>
      -- After the transaction nothing can fail.
      rw [on_bind_ok _ htransaction] at h
      cases h

theorem leavesNoTrace_savingFlags (flags : List (String × Bool)) :
    (savingFlags flags).LeavesNoTrace := by
  unfold savingFlags
  split
  · have hprepare : prepare.StaysWithin := staysWithin_statement _
    exact (hprepare.bind fun _ => staysWithin_putFlags flags).transaction
  · intro w e w' _ h
    cases h

theorem leavesNoTrace_loading (id : Int) : (loading id).LeavesNoTrace := by
  refine LeavesNoTrace.look_bind (fun row => ?_) _
  refine LeavesNoTrace.look_bind (fun issues => ?_) _
  intro w e w' _ h
  cases h

theorem leavesNoTrace_steps (op : Operation) : op.steps.LeavesNoTrace := by
  cases op with
  | save now r => exact (leavesNoTrace_saving now).map _
  | load id => exact (leavesNoTrace_loading id).map _
  | saveStates flags => exact (leavesNoTrace_savingFlags flags).map _
  | endSession token => exact (leavesNoTrace_changingRows fun _ => filter_token_eq_self).map _
  | revokeWaiver now id => exact (leavesNoTrace_changingRows fun _ => map_revocable_eq_self).map _
  | addUser now username hash role => exact ((leavesNoTrace_statement _).reporting _).map _
  | findings | has | list | summary | states | user | session | waivers | addWaiver =>
    exact (leavesNoTrace_statement _).map _
  | addSession | log =>
    unfold Operation.steps
    exact leavesNoTrace_statement _
  | close | reopen =>
    intro w e w' _ h
    cases h

end Steps

/-! ## Refusals -/

namespace Operation

/-- Whether an operation does something only in a store that is open. -/
def needsOpen : Operation → Bool
  | close | reopen .. => false
  | saveStates flags => !flags.isEmpty
  | _ => true

/-- Whether an operation is to change what is stored. -/
def writes : Operation → Bool
  | save .. | addUser .. | addSession .. | endSession .. | addWaiver .. | revokeWaiver .. | log .. => true
  | saveStates flags => !flags.isEmpty
  | _ => false

/-- The form in which an operation reports that the store is closed or only open for reading. -/
def reported (s : Store) : Operation → StoreError → StoreError
  | addUser _ username .., e => .userNotCreated username e
  | save .., .readOnly => if s.locksFirst then .readOnly else .reviewNotInserted .readOnly
  | _, e => e

end Operation

/-- Why a store refuses an operation with nothing from outside in its way. -/
inductive Refuses (s : Store) : Operation → StoreError → Prop
  | closed (op : Operation) : s.isOpen = false → op.needsOpen = true →
      Refuses s op (op.reported s .closed)
  | readOnly (op : Operation) : s.isOpen = true → s.isWritable = false → op.writes = true →
      Refuses s op (op.reported s .readOnly)
  | noReview (id : Int) : s.isOpen = true → (∀ row ∈ s.reviews, row.id ≠ id) →
      Refuses s (.load id) (.noReview id)
  | noUser (username : String) : s.isOpen = true → (∀ row ∈ s.users, row.username ≠ username) →
      Refuses s (.user username) (.noUser username)
  | noSession (now : Instant) (token : String) : s.isOpen = true →
      (∀ u, s.session now token ≠ .ok u) → Refuses s (.session now token) .noSession
  | usernameTaken (now : Instant) (username : String) (hash : PasswordHash) (role : String) :
      s.isOpen = true → s.isWritable = true → (∃ row ∈ s.users, row.username = username) →
      Refuses s (.addUser now username hash role) (.userNotCreated username .usernameTaken)
  | tokenTaken (owner : Int) (token : String) (expires : Instant) :
      s.isOpen = true → s.isWritable = true → (∃ row ∈ s.sessions, row.token = token) →
      Refuses s (.addSession owner token expires) .tokenTaken
  | unknownUser (owner : Int) (token : String) (expires : Instant) :
      s.isOpen = true → s.isWritable = true → (∀ row ∈ s.sessions, row.token ≠ token) →
      (∀ row ∈ s.users, row.id ≠ owner) → Refuses s (.addSession owner token expires) .unknownUser
  | absentSession (token : String) :
      s.isOpen = true → s.isWritable = true → (∀ row ∈ s.sessions, row.token ≠ token) →
      Refuses s (.endSession token) .nothingChanged
  | absentWaiver (now : Instant) (id : Int) :
      s.isOpen = true → s.isWritable = true →
      (∀ row ∈ s.waivers, row.id = id → row.revokedAt ≠ none) →
      Refuses s (.revokeWaiver now id) .nothingChanged

section

variable {α : Type} {s : Store} {result : Except StoreError α} {e : StoreError}

theorem whenOpen_eq_error_iff : s.whenOpen result = .error e ↔
    s.isOpen = false ∧ e = .closed ∨ s.isOpen = true ∧ result = .error e := by
  unfold whenOpen
  cases s.isOpen <;> simp [eq_comm]

theorem whenWritable_eq_error_iff : s.whenWritable result = .error e ↔
    s.isOpen = false ∧ e = .closed ∨ s.isOpen = true ∧ s.isWritable = false ∧ e = .readOnly ∨
      s.isOpen = true ∧ s.isWritable = true ∧ result = .error e := by
  rw [whenWritable, whenOpen_eq_error_iff]
  cases s.isWritable with
  | true => simp
  | false => simp [eq_comm (a := StoreError.readOnly)]

theorem map_eq_error_iff {β : Type} {f : α → β} : result.map f = .error e ↔ result = .error e := by
  cases result <;> simp [Except.map]

theorem mapError_eq_error_iff {form : StoreError → StoreError} :
    result.mapError form = .error e ↔ ∃ e', result = .error e' ∧ form e' = e := by
  cases result <;> simp

end

section

variable {s : Store} {op : Operation} {e : StoreError}

theorem answer_of_closed (hclosed : s.isOpen = false) (hop : op.needsOpen = true) :
    op.answer s = .error (op.reported s .closed) := by
  cases op with
  | close | reopen => cases hop
  | saveStates flags =>
    have hflags : flags.isEmpty = false := by simpa [Operation.needsOpen] using hop
    simp [Operation.answer, saveStates, hflags, whenWritable, whenOpen, hclosed, Except.map,
      Operation.reported]
  | _ =>
    simp [Operation.answer, Operation.reported, save, load, listFindings, has, list, summary, states,
      addUser, user, addSession, session, endSession, addWaiver, revokeWaiver, listWaivers, log,
      whenWritable, whenOpen, hclosed, Except.map]

theorem answer_of_readOnly (hopen : s.isOpen = true) (hreadOnly : s.isWritable = false)
    (hop : op.writes = true) : op.answer s = .error (op.reported s .readOnly) := by
  cases op with
  | close | reopen | load | findings | has | list | summary | states | user | session | waivers =>
    cases hop
  | saveStates flags =>
    have hflags : flags.isEmpty = false := by simpa [Operation.writes] using hop
    simp [Operation.answer, saveStates, hflags, whenWritable, whenOpen, hopen, hreadOnly, Except.map,
      Operation.reported]
  | _ =>
    simp [Operation.answer, Operation.reported, save, addUser, addSession, endSession, addWaiver,
      revokeWaiver, log, whenWritable, whenOpen, hopen, hreadOnly, Except.map]

theorem eq_noSession_of_session {now : Instant} {token : String} (hopen : s.isOpen = true)
    (h : s.session now token = .error e) : e = .noSession := by
  rw [session, whenOpen, if_pos hopen] at h
  split at h
  · exact (Except.error.inj h).symm
  · split at h
    · exact (Except.error.inj h).symm
    · split at h
      · cases h
      · exact (Except.error.inj h).symm

theorem any_revocable_eq_false_iff {id : Int} : s.waivers.any (revocable id) = false ↔
    ∀ row ∈ s.waivers, row.id = id → row.revokedAt ≠ none := by
  simp [revocable]

theorem answer_of_refuses (h : Refuses s op e) : op.answer s = .error e := by
  cases h with
  | closed op hclosed hop => exact answer_of_closed hclosed hop
  | readOnly op hopen hreadOnly hop => exact answer_of_readOnly hopen hreadOnly hop
  | noReview id hopen habsent =>
    have hrow : s.reviewRow? id = none := List.find?_eq_none.mpr (by simpa using habsent)
    simp [Operation.answer, load, whenOpen, hopen, hrow, Except.map]
  | noUser username hopen habsent =>
    have hrow : s.userRow? username = none := List.find?_eq_none.mpr (by simpa using habsent)
    simp [Operation.answer, user, whenOpen, hopen, hrow, Except.map]
  | noSession now token hopen hnone =>
    cases hsession : s.session now token with
    | ok u => exact absurd hsession (hnone u)
    | error e => simp [Operation.answer, hsession, eq_noSession_of_session hopen hsession, Except.map]
  | usernameTaken now username hash role hopen hwritable htaken =>
    have hrow : (s.userRow? username).isSome = true := List.find?_isSome.mpr (by simpa using htaken)
    simp [Operation.answer, addUser, whenWritable, whenOpen, hopen, hwritable, hrow, Except.map]
  | tokenTaken owner token expires hopen hwritable htaken =>
    have hrow : (s.sessionRow? token).isSome = true := List.find?_isSome.mpr (by simpa using htaken)
    simp [Operation.answer, addSession, whenWritable, whenOpen, hopen, hwritable, hrow, Except.map]
  | unknownUser owner token expires hopen hwritable hfree habsent =>
    have hrow : s.sessionRow? token = none := List.find?_eq_none.mpr (by simpa using hfree)
    have hany : s.users.any (·.id == owner) = false := by simpa using habsent
    simp [Operation.answer, addSession, whenWritable, whenOpen, hopen, hwritable, hrow, hany, Except.map]
  | absentSession token hopen hwritable habsent =>
    have hrow : s.sessionRow? token = none := List.find?_eq_none.mpr (by simpa using habsent)
    simp [Operation.answer, endSession, whenWritable, whenOpen, hopen, hwritable, hrow, Except.map]
  | absentWaiver now id hopen hwritable habsent =>
    have hany : s.waivers.any (revocable id) = false := any_revocable_eq_false_iff.mpr habsent
    simp [Operation.answer, revokeWaiver, whenWritable, whenOpen, hopen, hwritable, hany, Except.map]

theorem refuses_of_whenOpen {α : Type} {result : Except StoreError α} (hop : op.needsOpen = true)
    (hform : op.reported s .closed = .closed)
    (hinner : s.isOpen = true → result = .error e → Refuses s op e)
    (h : s.whenOpen result = .error e) : Refuses s op e := by
  obtain ⟨hclosed, rfl⟩ | ⟨hopen, h⟩ := whenOpen_eq_error_iff.mp h
  · exact hform ▸ .closed op hclosed hop
  · exact hinner hopen h

theorem refuses_of_whenWritable {α : Type} {result : Except StoreError α} {e' : StoreError}
    (hop : op.needsOpen = true ∧ op.writes = true)
    (hform : op.reported s e' = e)
    (hinner : s.isOpen = true → s.isWritable = true → result = .error e' → Refuses s op e)
    (h : s.whenWritable result = .error e') : Refuses s op e := by
  obtain ⟨hclosed, rfl⟩ | ⟨hopen, hreadOnly, rfl⟩ | ⟨hopen, hwritable, h⟩ :=
    whenWritable_eq_error_iff.mp h
  · exact hform ▸ .closed op hclosed hop.1
  · exact hform ▸ .readOnly op hopen hreadOnly hop.2
  · exact hinner hopen hwritable h

theorem refuses_of_answer (h : op.answer s = .error e) : Refuses s op e := by
  cases op with
  | save now r =>
    refine refuses_of_whenOpen rfl rfl (fun hopen h => ?_) (map_eq_error_iff.mp h)
    split at h
    next hreadOnly =>
      cases h
      exact .readOnly (.save now r) hopen (by simpa using hreadOnly) rfl
    next => cases h
  | load id =>
    refine refuses_of_whenOpen rfl rfl (fun hopen h => ?_) (map_eq_error_iff.mp h)
    split at h
    next hrow =>
      cases h
      exact .noReview id hopen (by simpa [reviewRow?] using hrow)
    next row _ => simp [listFindings, whenOpen, hopen, bind, Except.bind, pure, Except.pure] at h
  | findings | has | list | summary | states | waivers =>
    refine refuses_of_whenOpen rfl rfl (fun _ h => ?_) (map_eq_error_iff.mp h)
    cases h
  | saveStates flags =>
    have hsave := map_eq_error_iff.mp h
    unfold saveStates at hsave
    split at hsave
    next => cases hsave
    next hflags =>
      have hop : (!flags.isEmpty) = true := by simpa using hflags
      refine refuses_of_whenWritable ⟨hop, hop⟩ rfl (fun _ _ h => ?_) hsave
      cases h
  | user username =>
    refine refuses_of_whenOpen rfl rfl (fun hopen h => ?_) (map_eq_error_iff.mp h)
    split at h
    next hrow =>
      cases h
      exact .noUser username hopen (by simpa [userRow?] using hrow)
    next => cases h
  | session now token =>
    have hsession := map_eq_error_iff.mp h
    refine refuses_of_whenOpen rfl rfl (fun hopen _ => ?_) hsession
    cases eq_noSession_of_session hopen hsession
    exact .noSession now token hopen (by simp [hsession])
  | addUser now username hash role =>
    obtain ⟨e', hadd, hform⟩ := mapError_eq_error_iff.mp (map_eq_error_iff.mp h)
    refine refuses_of_whenWritable ⟨rfl, rfl⟩ hform (fun hopen hwritable h => ?_) hadd
    split at h
    next htaken =>
      cases h
      cases hform
      exact .usernameTaken now username hash role hopen hwritable (by simpa [userRow?] using htaken)
    next => cases h
  | addSession owner token expires =>
    refine refuses_of_whenWritable ⟨rfl, rfl⟩ rfl (fun hopen hwritable h => ?_)
      (map_eq_error_iff.mp h)
    split at h
    next htaken =>
      cases h
      exact .tokenTaken owner token expires hopen hwritable (by simpa [sessionRow?] using htaken)
    next hfree =>
      split at h
      next habsent =>
        cases h
        exact .unknownUser owner token expires hopen hwritable (by simpa [sessionRow?] using hfree)
          (by simpa using habsent)
      next => cases h
  | endSession token =>
    refine refuses_of_whenWritable ⟨rfl, rfl⟩ rfl (fun hopen hwritable h => ?_)
      (map_eq_error_iff.mp h)
    split at h
    next => cases h
    next habsent =>
      cases h
      exact .absentSession token hopen hwritable (by simpa [sessionRow?] using habsent)
  | revokeWaiver now id =>
    refine refuses_of_whenWritable ⟨rfl, rfl⟩ rfl (fun hopen hwritable h => ?_)
      (map_eq_error_iff.mp h)
    split at h
    next => cases h
    next habsent =>
      cases h
      exact .absentWaiver now id hopen hwritable
        (any_revocable_eq_false_iff.mp (by simpa using habsent))
  | addWaiver | log =>
    refine refuses_of_whenWritable ⟨rfl, rfl⟩ rfl (fun _ _ h => ?_) (map_eq_error_iff.mp h)
    cases h
  | close | reopen => cases h

end

/-! ## No trace -/

/-- An operation that fails on a store as if it had not been called. -/
structure FailsCleanly (s : Store) (op : Operation) : Prop where
  /-- Undisturbed, the statements of the operation come to what it answers and makes of the store. -/
  undisturbed : (Call.run ⟨op, []⟩ s).answer = op.answer s ∧
    (Call.run ⟨op, []⟩ s).store = s.perform op
  /-- Undisturbed, it fails for these reasons and no others. -/
  refused_iff : ∀ e, op.answer s = .error e ↔ Refuses s op e
  /-- Whichever of its statements fails, the store is as before. -/
  store_eq : ∀ faults e, (Call.run ⟨op, faults⟩ s).answer = .error e →
    (Call.run ⟨op, faults⟩ s).store = s
  /-- So nothing that is called later can tell that it was called. -/
  answers_eq : ∀ faults e, (Call.run ⟨op, faults⟩ s).answer = .error e →
    ∀ later, answers (Call.run ⟨op, faults⟩ s).store later = answers s later
  /-- A review that was not saved keeps its id. -/
  review_id : ∀ now r, op = .save now r → ∀ faults e, (Call.run ⟨op, faults⟩ s).answer = .error e →
    (Call.run ⟨op, faults⟩ s).review.id = r.id

theorem Call.run_of_error {op : Operation} {faults : List (Option StoreError)} {s : Store}
    {e : StoreError} (h : (Call.run ⟨op, faults⟩ s).answer = .error e) :
    (Call.run ⟨op, faults⟩ s).store = s ∧ (Call.run ⟨op, faults⟩ s).review.id = op.given.id := by
  unfold Call.run at h ⊢
  cases hon : op.steps.on { kept := s, review := op.given, faults } with
  | mk result w =>
    simp only [hon] at h ⊢
    subst h
    exact Steps.leavesNoTrace_steps op _ e w rfl hon

/-- **Operations that fail leave no trace**, whatever the store holds and whichever of their statements
fails. -/
theorem failsCleanly (s : Store) (op : Operation) : FailsCleanly s op where
  undisturbed := Call.run_undisturbed op s
  refused_iff _ := ⟨refuses_of_answer, answer_of_refuses⟩
  store_eq _ _ h := (Call.run_of_error h).1
  answers_eq _ _ h _ := by rw [(Call.run_of_error h).1]
  review_id _ _ hop _ _ h := by
    subst hop
    exact (Call.run_of_error h).2

-- The second finding cannot be inserted: in memory the first one has an id, and nothing is stored.
example :
    let outcome := Call.run
      ⟨.save .zero { issues := some [{ line := 1 }, { line := 2 }] },
        [none, none, none, none, some .readOnly]⟩ .empty
    outcome.review.findings.map (·.id) = [1, 0] ∧ outcome.review.id = 0 ∧
      outcome.store.reviews.length = 0 ∧ outcome.store.findings.length = 0 := by
  decide

end JavaReview.Store
