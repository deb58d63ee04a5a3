import JavaReview.Proofs.Server.Restart
import JavaReview.Proofs.Store.Additions
import JavaReview.Proofs.Store.Reloading

/-!
What requests leave alone. A request is of an administrator if its cookie names a session of one that has
not expired (`Server.ShowsAdmin`). Requests of others change neither flags nor waivers, and no request
changes a user or a review that is stored (`Server.handle_protects`). The second half says only which
operations of the store requests are made of (`Server.Step.exists_operations`), and the operations decide
the rest.
-/

namespace JavaReview

open Http (Request)

namespace Store

/-! ## Operations and the tables they leave alone -/

/-- Whether an operation adds or revokes a waiver. -/
def Operation.isWaiving : Operation → Bool
  | addWaiver .. | revokeWaiver .. => true
  | _ => false

/-- Whether an operation adds a user. -/
def Operation.isEnrolling : Operation → Bool
  | addUser .. => true
  | _ => false

theorem Operation.isWaiving_of_isAccess {op : Operation} (h : op.isAccess = true) :
    op.isWaiving = false := by
  cases op <;> first | rfl | cases h

theorem Operation.isEnrolling_of_isAside {op : Operation} (h : op.isAside = true) :
    op.isEnrolling = false := by
  cases op <;> first | rfl | cases h

theorem Changes.waivers_eq {s s' : Store} {op : Operation} (h : Changes s op s')
    (hop : op.isWaiving = false) : s'.waivers = s.waivers := by
  cases h with
  | waiver | revocation => cases hop
  | nothing | review | flags | user | session | sessionEnd | note | closing | reopening => rfl

theorem waivers_performAll (s : Store) {ops : List Operation}
    (hops : ∀ op ∈ ops, op.isWaiving = false) : (s.performAll ops).waivers = s.waivers := by
  refine performAll_induction (P := fun t => t.waivers = s.waivers) ?_ rfl
  intro op hop t t' hc h
  exact (hc.waivers_eq (hops op hop)).trans h

/-- Stores with the same users, of which the second has the reviews of the first and maybe more after
them. -/
structure Extends (s s' : Store) : Prop where
  users_eq : s'.users = s.users
  reviews_prefix : s.reviews <+: s'.reviews
  findings_prefix : s.findings <+: s'.findings

namespace Extends

variable {s s' s'' : Store}

theorem refl (s : Store) : Extends s s := ⟨rfl, List.prefix_rfl, List.prefix_rfl⟩

theorem trans (h : Extends s s') (h' : Extends s' s'') : Extends s s'' where
  users_eq := h'.users_eq.trans h.users_eq
  reviews_prefix := h.reviews_prefix.trans h'.reviews_prefix
  findings_prefix := h.findings_prefix.trans h'.findings_prefix

end Extends

theorem Changes.extends {s s' : Store} {op : Operation} (h : Changes s op s')
    (hop : op.isEnrolling = false) : Extends s s' := by
  cases h with
  | user => cases hop
  | review => exact ⟨rfl, List.prefix_append _ _, List.prefix_append _ _⟩
  | nothing | flags | session | sessionEnd | waiver | revocation | note | closing | reopening =>
    exact ⟨rfl, List.prefix_rfl, List.prefix_rfl⟩

theorem extends_performAll (s : Store) {ops : List Operation}
    (hops : ∀ op ∈ ops, op.isEnrolling = false) : Extends s (s.performAll ops) := by
  refine performAll_induction (P := Extends s) ?_ (.refl s)
  intro op hop t t' hc h
  exact h.trans (hc.extends (hops op hop))

theorem Reachable.performAll {s : Store} (h : s.Reachable) (ops : List Operation) :
    (s.performAll ops).Reachable := by
  obtain ⟨before, rfl⟩ := h
  exact ⟨before ++ ops, (performAll_append _ _ _).symm⟩

/-- A stored review is loaded as before after any operations that leave the store open. -/
theorem Reachable.load_performAll {s : Store} (h : s.Reachable) (ops : List Operation)
    (hopen : (s.performAll ops).isOpen = true) {id : Int} {r : Review} (hload : s.load id = .ok r) :
    (s.performAll ops).load id = .ok r := by
  obtain ⟨log, hlog⟩ := h.exists_holds
  obtain ⟨more, hmore⟩ := hlog.performAll ops
  obtain ⟨hopened, row, hrow, -⟩ := load_eq_ok_iff.mp hload
  obtain ⟨hmem, rfl⟩ := hlog.reviewRow?_eq_some_iff.mp hrow
  obtain ⟨x, hx, rfl⟩ := hlog.exists_saved hmem
  rw [hmore.load_eq (List.mem_append_left more hx) hopen, ← hload, hlog.load_eq hx hopened]

/-! ## Sessions that are resolved -/

/-- A session is resolved in an open store if there is a row of its token that has not expired, and then
to the user of the row. -/
theorem session_eq_ok_iff {s : Store} {now : Instant} {token : String} {u : User} :
    s.session now token = .ok u ↔ s.isOpen = true ∧ ∃ row user, s.sessionRow? token = some row ∧
      s.users.find? (·.id == row.user) = some user ∧ row.expiresAt.isAfter now = true ∧
      user.toUser = u := by
  rw [session, whenOpen_eq_ok_iff]
  refine and_congr_right fun _ => ?_
  cases s.sessionRow? token with
  | none => simp
  | some row =>
    simp only [Option.some.injEq, exists_and_left, exists_eq_left']
    cases s.users.find? (·.id == row.user) with
    | none => simp
    | some user => by_cases hafter : row.expiresAt.isAfter now = true <;> simp [hafter]

end Store

namespace Server

open Store (Operation)

theorem userOf?_eq_some_iff {s : Server} {now : Instant} {req : Request} {u : User} :
    s.userOf? now req = some u ↔
      ∃ token, sessionToken? req = some token ∧ s.store.session now token = .ok u := by
  rw [userOf?, Option.bind_eq_some_iff]
  simp only [toOption_eq_some_iff]

/-- A request whose cookie is the token of a session that has not expired and belongs to an
administrator, shown to a server that can look it up. -/
def ShowsAdmin (s : Server) (now : Instant) (req : Request) : Prop :=
  s.store.isOpen = true ∧ ∃ session ∈ s.store.sessions, sessionToken? req = some session.token ∧
    session.expiresAt.isAfter now = true ∧
    ∃ user ∈ s.store.users, user.id = session.user ∧ user.role = User.adminRole

instance (s : Server) (now : Instant) (req : Request) : Decidable (s.ShowsAdmin now req) :=
  inferInstanceAs (Decidable (_ ∧ _))

theorem FromAdmin.showsAdmin {s : Server} {now : Instant} {req : Request}
    (h : s.FromAdmin now req) : s.ShowsAdmin now req := by
  obtain ⟨u, hu, hadmin⟩ := h
  obtain ⟨token, htoken, hsession⟩ := userOf?_eq_some_iff.mp hu
  obtain ⟨hopen, row, user, hrow, huser, hafter, rfl⟩ := Store.session_eq_ok_iff.mp hsession
  have hname : row.token = token := by simpa using List.find?_some hrow
  have hid : user.id = row.user := by simpa using List.find?_some huser
  have hrole : user.role = User.adminRole := by simpa [User.isAdmin, UserRow.toUser] using hadmin
  exact ⟨hopen, row, List.mem_of_find?_eq_some hrow, hname ▸ htoken, hafter, user,
    List.mem_of_find?_eq_some huser, hid, hrole⟩

/-! ## Requests and calls as operations -/

section Steps

variable {m : Moment} {req : Request} {s s' : Server}

/-- A request is a run of operations on the store, none of which adds a user. -/
theorem Step.exists_operations (h : Step m req s s') :
    ∃ ops, s'.store = s.store.performAll ops ∧ ∀ op ∈ ops, op.isEnrolling = false := by
  cases h with
  | access ops hops =>
    exact ⟨ops, rfl, fun op hop =>
      Operation.isEnrolling_of_isAside (Operation.isAside_of_isAccess (hops op hop))⟩
  | allowance => exact ⟨[], rfl, by simp⟩
  | waivers ops _ hops => exact ⟨ops, rfl, fun op hop => Operation.isEnrolling_of_isAside (hops op hop)⟩
  | rules us before after _ _ _ hbefore hafter =>
    refine ⟨_, rfl, fun op hop => ?_⟩
    rcases Operation.isAccess_or_eq hbefore hafter hop with hop | rfl
    · exact Operation.isEnrolling_of_isAside (Operation.isAside_of_isAccess hop)
    · rfl
  | review => exact ⟨[_], rfl, by simp [Operation.isEnrolling]⟩

/-- Without the session of an administrator a request leaves flags and waivers as they are. -/
theorem Step.unchanged (h : Step m req s s') (hadmin : ¬ s.ShowsAdmin m.now req) :
    s'.registry = s.registry ∧ s'.store.ruleStates = s.store.ruleStates ∧
      s'.store.waivers = s.store.waivers := by
  cases h with
  | access ops hops =>
    exact ⟨rfl, (s.store.sameContent_access hops).ruleStates_eq,
      s.store.waivers_performAll fun op hop => Operation.isWaiving_of_isAccess (hops op hop)⟩
  | allowance => exact ⟨rfl, rfl, rfl⟩
  | waivers _ hfrom => exact absurd hfrom.showsAdmin hadmin
  | rules _ _ _ _ hfrom => exact absurd hfrom.showsAdmin hadmin
  | review =>
    have hsave := Store.changes_perform s.store
    exact ⟨rfl, (hsave _).ruleStates_eq (by simp), (hsave _).waivers_eq rfl⟩

end Steps

theorem exists_operations_after (s : Server) (c : Call) :
    ∃ ops, (s.after c).store = s.store.performAll ops := by
  cases c with
  | request m req =>
    obtain ⟨ops, hops, -⟩ := (handle_step m req s).exists_operations
    exact ⟨ops, hops⟩
  | tool now tool args =>
    rw [after]
    have hstep := Toolbox.call_step now args tool (rfl : s.toolbox.store = some s.store)
    generalize (s.toolbox.call now tool args).2 = t at hstep
    cases hstep with
    | nothing => exact ⟨[], rfl⟩
    | review r => exact ⟨[.save now r], rfl⟩
    | rules us => exact ⟨[.saveStates _], rfl⟩

/-- A server that requests and calls lead to, from a start on a store that operations lead to. -/
def Reachable (s : Server) : Prop :=
  ∃ (start : Server) (calls : List Call), start.store.Reachable ∧ start.afterAll calls = s

theorem Reachable.store {s : Server} (h : s.Reachable) : s.store.Reachable := by
  obtain ⟨start, calls, hstart, rfl⟩ := h
  induction calls generalizing start with
  | nil => exact hstart
  | cons c calls ih =>
    obtain ⟨ops, hops⟩ := start.exists_operations_after c
    exact ih (start.after c) (hops ▸ hstart.performAll ops)

/-! ## What requests leave alone -/

/-- **Guards.** Only with the session of an administrator can a request change the flags of rules, their
table or the waivers. No request changes the users, or a review or finding that is stored: the rows stay
where they are, and the reviews are loaded as before. -/
theorem handle_protects (s : Server) (hs : s.Reachable) (m : Moment) (req : Request) :
    (¬ s.ShowsAdmin m.now req →
      (handle m req s).2.registry = s.registry ∧
      (handle m req s).2.store.ruleStates = s.store.ruleStates ∧
      (handle m req s).2.store.waivers = s.store.waivers) ∧
    (handle m req s).2.store.users = s.store.users ∧
    s.store.reviews <+: (handle m req s).2.store.reviews ∧
    s.store.findings <+: (handle m req s).2.store.findings ∧
    ∀ id r, s.store.load id = .ok r → (handle m req s).2.store.load id = .ok r := by
  have hstep := handle_step m req s
  obtain ⟨ops, hstore, hops⟩ := hstep.exists_operations
  have hextends := s.store.extends_performAll hops
  rw [← hstore] at hextends
  refine ⟨hstep.unchanged, hextends.users_eq, hextends.reviews_prefix, hextends.findings_prefix, ?_⟩
  intro id r hload
  have hopen : (handle m req s).2.store.isOpen = true :=
    (s.opening_after (.request m req)).1.trans (Store.load_eq_ok_iff.mp hload).1
  rw [hstore] at hopen ⊢
  exact hs.store.load_performAll ops hopen hload

/-- A server with a stored review and sessions of an administrator and of another user. -/
def guardedServer : Server where
  store := Store.empty.performAll [
    .addUser (.ofParts 1700000000 0) "ada" (.foreign "") "admin",
    .addUser (.ofParts 1700000000 0) "bob" (.foreign "") "viewer",
    .addSession 1 "a" (.ofParts 2000000000 0),
    .addSession 2 "b" (.ofParts 2000000000 0),
    .save (.ofParts 1700000000 0) { filename := "A.java", issues := some [{ line := 1 }] }]

theorem reachable_guardedServer : guardedServer.Reachable := ⟨guardedServer, [], ⟨_, rfl⟩, rfl⟩

/-- A request, with the session of a token in the second field for cookies, to switch a rule off. -/
def switchOff (token : String) : Request where
  method := "PUT"
  target := .ofText "/api/v1/rules"
  headers := [("Cookie", "theme=dark"), ("Cookie", "jreview_session=" ++ token)]
  body := "\x7b\"long-line\":false\x7d"

/-- The request switches the rule off for the administrator, and for the other user it does nothing. -/
theorem handle_protects_switchOff :
    (handle ⟨.ofParts 1700000000 0, "", ""⟩ (switchOff "a") guardedServer).2.store.ruleStates =
        [("long-line", false)] ∧
      ¬ guardedServer.ShowsAdmin (.ofParts 1700000000 0) (switchOff "b") ∧
      (handle ⟨.ofParts 1700000000 0, "", ""⟩ (switchOff "b") guardedServer).2.registry =
        guardedServer.registry ∧
      (handle ⟨.ofParts 1700000000 0, "", ""⟩ (switchOff "b") guardedServer).2.store.ruleStates = [] ∧
      ∃ r, guardedServer.store.load 1 = .ok r ∧
        (handle ⟨.ofParts 1700000000 0, "", ""⟩ (switchOff "b") guardedServer).2.store.load 1 =
          .ok r := by
  have hviewer : ¬ guardedServer.ShowsAdmin (.ofParts 1700000000 0) (switchOff "b") := by
    decide +kernel
  have hprotects := handle_protects guardedServer reachable_guardedServer
    ⟨.ofParts 1700000000 0, "", ""⟩ (switchOff "b")
  obtain ⟨hregistry, hstates, -⟩ := hprotects.1 hviewer
  exact ⟨by decide +kernel, hviewer, hregistry, hstates, _, rfl, hprotects.2.2.2.2 1 _ rfl⟩

end Server

end JavaReview
