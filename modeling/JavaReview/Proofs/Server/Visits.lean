import JavaReview.Proofs.Server.Guards
import Mathlib.Logic.Function.Basic

/-!
Requests that overlap. A login looks up its user, starts a session and is noted; a request for users only
looks up its session and is noted, and a logout then ends the session. Each of these is an operation of
the store on its own, which can fail, and between any two of them other requests go on. So a run is a list
of turns, and in each turn one request takes its next step (`Server.Traffic.after`). A request that is
alone is handled as if at once (`Server.handle_alone`).
-/

namespace JavaReview

open Http (Request)

namespace Store

/-! ## Sessions under operations -/

/-- Whether an operation starts or ends a session. -/
def Operation.isSession : Operation → Bool
  | addSession .. | endSession _ => true
  | _ => false

theorem Changes.sessions_eq {s s' : Store} {op : Operation} (h : Changes s op s')
    (hop : op.isSession = false) : s'.sessions = s.sessions := by
  cases h with
  | session | sessionEnd => cases hop
  | nothing | review | flags | user | waiver | revocation | note | closing | reopening => rfl

theorem sessions_of_save {s : Store} {now : Instant} {r : Review} {result : Store × Review}
    (h : s.save now r = .ok result) : result.1.sessions = s.sessions := by
  have hrun : (Operation.save now r).run s = .ok result.1 := map_eq_ok_iff.mpr ⟨_, h, rfl⟩
  exact (changes_run hrun).sessions_eq rfl

theorem sessions_of_addWaiver {s : Store} {now expires : Instant}
    {rule filename pattern reason createdBy : String} {result : Store × Int}
    (h : s.addWaiver now rule filename pattern reason createdBy expires = .ok result) :
    result.1.sessions = s.sessions := by
  obtain ⟨-, -, h⟩ := whenWritable_eq_ok_iff.mp h
  cases h
  rfl

theorem sessions_of_addSession {s s' : Store} {owner : Int} {token : String} {expires : Instant}
    (h : s.addSession owner token expires = .ok s') :
    s'.sessions = s.sessions ++ [{ token, user := owner, expiresAt := .ofInstant expires }] := by
  obtain ⟨-, -, h⟩ := whenWritable_eq_ok_iff.mp h
  split at h
  · cases h
  · split at h
    · cases h
    · cases h
      rfl

/-- A session that is ended was there, and is not there any more. -/
theorem endSession_eq_ok {s s' : Store} {token : String} (h : s.endSession token = .ok s') :
    (∃ row ∈ s.sessions, row.token = token) ∧
      s'.sessions = s.sessions.filter (·.token != token) := by
  obtain ⟨-, -, h⟩ := whenWritable_eq_ok_iff.mp h
  split at h
  next hrow =>
    cases h
    obtain ⟨row, hrow⟩ := Option.isSome_iff_exists.mp hrow
    exact ⟨⟨row, List.mem_of_find?_eq_some hrow, by simpa using List.find?_some hrow⟩, rfl⟩
  next => cases h

theorem Reachable.accounts {s : Store} (h : s.Reachable) : s.Accounts := by
  obtain ⟨ops, rfl⟩ := h
  exact performAll_induction (fun _ _ _ _ hc h => h.changes hc) Accounts.empty

end Store

namespace Server

open Store (Operation)

/-! ## Handlers that leave sessions alone -/

theorem sessions_performing (s : Server) {op : Operation} (hop : op.isSession = false) :
    (s.performing [op]).store.sessions = s.store.sessions :=
  (Store.changes_perform s.store op).sessions_eq hop

theorem sessions_note (s : Server) (m : Moment) (username action resource : String) (detail : Json) :
    (s.note m username action resource detail).store.sessions = s.store.sessions := by
  rw [note_eq]
  exact s.sessions_performing rfl

/-- A handler that never changes the table of sessions. -/
def KeepsSessions (h : Handler) : Prop :=
  ∀ m req s, (h m req s).2.store.sessions = s.store.sessions

theorem keepsSessions_withUser (action : String) {next : User → Handler}
    (hnext : ∀ u, KeepsSessions (next u)) : KeepsSessions (withUser action next) := by
  intro m req s
  unfold withUser
  split
  · rfl
  · rw [hnext, noteUser, sessions_note]

theorem keepsSessions_withAdmin (action : String) {next : User → Handler}
    (hnext : ∀ u, KeepsSessions (next u)) : KeepsSessions (withAdmin action next) := by
  refine keepsSessions_withUser action fun u m req s => ?_
  split
  · exact hnext u m req s
  · rfl

theorem keepsSessions_withAllowance {next : Handler} (hnext : KeepsSessions next) :
    KeepsSessions (withAllowance next) := by
  intro m req s
  unfold withAllowance
  split
  · exact hnext m req s
  · rfl
  · exact hnext m req _

theorem keepsSessions_updateRules : KeepsSessions updateRules := by
  refine keepsSessions_withAdmin _ fun u m req s => ?_
  simp only
  split
  · rfl
  · rw [sessions_note, changeRules, storeRules_eq, sessions_performing _ rfl]
    rfl

theorem keepsSessions_addWaiver : KeepsSessions addWaiver := by
  refine keepsSessions_withAdmin _ fun u m req s => ?_
  split
  · rfl
  · split
    · rfl
    next hadd =>
      rw [sessions_note]
      exact Store.sessions_of_addWaiver hadd

theorem keepsSessions_revokeWaiver (id : String) : KeepsSessions (revokeWaiver id) := by
  refine keepsSessions_withAdmin _ fun u m req s => ?_
  split
  · rfl
  · split
    · rfl
    next hrevoke =>
      rw [sessions_note]
      exact (Store.changes_revokeWaiver hrevoke).sessions_eq rfl

theorem sessions_analyzeSource (s : Server) (now : Instant) (source filename : String) :
    (s.analyzeSource now source filename).2.store.sessions = s.store.sessions := by
  unfold analyzeSource
  split
  · rfl
  · simp only
    split
    · rfl
    next hsave => exact Store.sessions_of_save hsave

theorem keepsSessions_analyze : KeepsSessions analyze := by
  refine keepsSessions_withAllowance fun m req s => ?_
  split
  · rfl
  · exact s.sessions_analyzeSource _ _ _

theorem keepsSessions_upload : KeepsSessions upload := by
  refine keepsSessions_withAllowance fun m req s => ?_
  split
  · rfl
  · exact s.sessions_analyzeSource _ _ _

theorem keepsSessions_handler {route : Route} (hlogin : route ≠ .login) (hlogout : route ≠ .logout) :
    KeepsSessions (handler route) := by
  cases route with
  | login => exact absurd rfl hlogin
  | logout => exact absurd rfl hlogout
  | me => exact keepsSessions_withUser _ fun _ _ _ _ => rfl
  | analyze => exact keepsSessions_analyze
  | upload => exact keepsSessions_upload
  | updateRules => exact keepsSessions_updateRules
  | listWaivers => exact keepsSessions_withUser _ fun _ _ _ _ => rfl
  | addWaiver => exact keepsSessions_addWaiver
  | revokeWaiver id => exact keepsSessions_revokeWaiver id
  | health | listReviews | review | reviewFile | summary | rules | ruleDetails | unknown =>
    exact fun _ _ _ => rfl

/-! ## Routes -/

instance (req : Request) (route : Route) : Decidable (Reaches req route) :=
  decidable_of_iff (req.target.rawPath ≠ ['*'] ∧ routedPath req = req.target.escapedPath ∧
      req.method ≠ "OPTIONS" ∧ routeOf req = route)
    ⟨fun h => ⟨h.1, h.2.1, h.2.2.1, h.2.2.2⟩,
      fun h => ⟨h.path_ne, h.path_eq, h.method_ne, h.route_eq⟩⟩

theorem Reaches.unique {req : Request} {route route' : Route} (h : Reaches req route)
    (h' : Reaches req route') : route = route' :=
  h.route_eq.symm.trans h'.route_eq

/-- A request is handled by the handler of its route, whose answer gets more header fields, or by none. -/
theorem handle_cases (m : Moment) (req : Request) (s : Server) :
    (∃ route more, Reaches req route ∧
      handle m req s = ((respond (handler route m req s).1).withHeaders more,
        (handler route m req s).2)) ∨
    ((handle m req s).2 = s ∧ ∀ route, ¬ Reaches req route) := by
  by_cases hpath : req.target.rawPath = ['*']
  · refine .inr ⟨?_, fun route h => h.path_ne hpath⟩
    rw [handle, if_pos hpath]
  by_cases hclean : routedPath req = req.target.escapedPath
  · by_cases hmethod : req.method = "OPTIONS"
    · refine .inr ⟨?_, fun route h => h.method_ne hmethod⟩
      rw [handle, if_neg hpath, if_neg (not_not_intro hclean), dispatch, if_pos hmethod]
    · have hreach : Reaches req (routeOf req) := ⟨hpath, hclean, hmethod, rfl⟩
      obtain ⟨more, heq⟩ := hreach.handle_eq m s
      exact .inl ⟨_, more, hreach, heq⟩
  · refine .inr ⟨?_, fun route h => hclean h.path_eq⟩
    rw [handle, if_neg hpath, if_pos hclean]

/-- What requests for a route are noted as, if only users may send them. -/
def Route.action? : Route → Option String
  | logout => some "auth:logout"
  | me => some "me"
  | updateRules => some "rules:update"
  | listWaivers => some "waivers:list"
  | addWaiver => some "waivers:create"
  | revokeWaiver _ => some "waivers:revoke"
  | _ => none

/-- A request is noted only by way of the guard for users. -/
theorem handler_of_action? {route : Route} {action : String} (h : route.action? = some action) :
    ∃ next, handler route = withUser action next := by
  cases route with
  | logout | me | listWaivers =>
    cases h
    unfold handler logout me listWaivers
    exact ⟨_, rfl⟩
  | updateRules | addWaiver | revokeWaiver =>
    cases h
    unfold handler updateRules addWaiver revokeWaiver withAdmin
    exact ⟨_, rfl⟩
  | health | login | analyze | upload | listReviews | review | reviewFile | summary | rules |
    ruleDetails | unknown => cases h

/-! ## Stages -/

/-- A request, and the token that is drawn for it if it logs in. -/
structure Visit where
  request : Request
  token : String

/-- How far a visit has come. -/
inductive Stage where
  | arrived
  /-- The session that it shows was found. -/
  | admitted (u : User)
  /-- It was noted, or the note was dropped. -/
  | noted (u : User)
  /-- The session that it shows was ended. -/
  | loggedOut
  /-- The name and the password that it gives were accepted. -/
  | identified (u : User)
  /-- A session was started for it. -/
  | entered (u : User)
  /-- It does nothing more about sessions. -/
  | left
deriving DecidableEq, Repr

namespace Stage

/-- The stage after an operation of the store that failed. -/
def failed : Stage → Stage
  | admitted u => noted u
  | loggedOut => loggedOut
  | _ => left

/-- Stages by how late they are. -/
def rank : Stage → Nat
  | arrived => 0
  | admitted _ | identified _ => 1
  | noted _ | entered _ => 2
  | loggedOut | left => 3

theorem rank_le_failed (stage : Stage) : stage.rank ≤ stage.failed.rank := by
  cases stage <;> simp [failed, rank]

end Stage

namespace Visit

/-- What the outside gives to a visit at an instant. -/
def moment (v : Visit) (now : Instant) : Moment := ⟨now, v.token, ""⟩

/-- What the visit is noted as, if only users may make it. -/
def action? (v : Visit) : Option String :=
  if Reaches v.request (routeOf v.request) then (routeOf v.request).action? else none

/-- The stage of a visit after its first step. -/
def welcome (v : Visit) (now : Instant) (s : Server) : Stage :=
  if Reaches v.request .login then (s.identify v.request).toOption.elim .left .identified
  else if v.action?.isSome then (s.userOf? now v.request).elim .left .admitted
  else .left

/-- The next step of a visit, with what it makes of the server. -/
def next (v : Visit) (now : Instant) (s : Server) : Stage → Stage × Server
  | .arrived => (v.welcome now s, s)
  | .admitted u => (.noted u, s.noteUser (v.moment now) u (v.action?.getD "") v.request)
  | .noted _ =>
    if Reaches v.request .logout then
      match s.endSession? v.request with
      | some s' => (.loggedOut, s')
      | none => (.left, s)
    else (.left, s)
  | .identified u =>
    match s.startSession now u v.token with
    | .ok s' => (.entered u, s')
    | .error _ => (.left, s)
  | .entered u => (.left, s.noteLogin (v.moment now) u v.request)
  | .loggedOut => (.loggedOut, s)
  | .left => (.left, s)

/-- What one step of a visit can come to. -/
inductive Moves (v : Visit) (now : Instant) (s : Server) : Stage → Stage → Server → Prop
  | accept (u : User) : Reaches v.request .login → s.identify v.request = .ok u →
      Moves v now s .arrived (.identified u) s
  | issue (u : User) (s' : Server) : s.startSession now u v.token = .ok s' →
      Moves v now s (.identified u) (.entered u) s'
  | noteLogin (u : User) (username action resource : String) (detail : Json) :
      Moves v now s (.entered u) .left (s.performing [.log now username action resource detail])
  | letIn (u : User) : v.action?.isSome = true → s.userOf? now v.request = some u →
      Moves v now s .arrived (.admitted u) s
  | note (u : User) (username action resource : String) (detail : Json) :
      Moves v now s (.admitted u) (.noted u) (s.performing [.log now username action resource detail])
  | finish (u : User) (s' : Server) : Reaches v.request .logout → s.endSession? v.request = some s' →
      Moves v now s (.noted u) .loggedOut s'
  | leave (stage : Stage) : stage ≠ .loggedOut → Moves v now s stage .left s
  | rest : Moves v now s .loggedOut .loggedOut s

theorem moves_next (v : Visit) (now : Instant) (s : Server) (stage : Stage) :
    v.Moves now s stage (v.next now s stage).1 (v.next now s stage).2 := by
  cases stage with
  | arrived =>
    show v.Moves now s .arrived (v.welcome now s) s
    unfold welcome
    split
    next hlogin =>
      cases hu : s.identify v.request with
      | error e => exact .leave _ nofun
      | ok u => exact .accept u hlogin hu
    next =>
      split
      next haction =>
        cases hu : s.userOf? now v.request with
        | none => exact .leave _ nofun
        | some u => exact .letIn u haction hu
      next => exact .leave _ nofun
  | admitted u =>
    rw [next, noteUser_eq]
    exact .note u _ _ _ _
  | noted u =>
    rw [next]
    split
    next hlogout =>
      cases hend : s.endSession? v.request with
      | none => exact .leave _ nofun
      | some s' => exact .finish u s' hlogout hend
    next => exact .leave _ nofun
  | identified u =>
    rw [next]
    cases hstart : s.startSession now u v.token with
    | error e => exact .leave _ nofun
    | ok s' => exact .issue u s' hstart
  | entered u =>
    rw [next, noteLogin_eq]
    exact .noteLogin u _ _ _ _
  | loggedOut => exact .rest
  | left => exact .leave _ nofun

section Moves

variable {v : Visit} {now : Instant} {s s' : Server} {stage stage' : Stage}

/-- A visit never goes back to an earlier stage. -/
theorem Moves.rank_le (h : v.Moves now s stage stage' s') : stage.rank ≤ stage'.rank := by
  cases h with
  | leave => cases stage <;> simp [Stage.rank]
  | accept | issue | noteLogin | letIn | note | finish | rest => simp [Stage.rank]

theorem Moves.users_eq (h : v.Moves now s stage stage' s') : s'.store.users = s.store.users := by
  have hperforming {op : Operation} (hop : op.isEnrolling = false) :
      (s.performing [op]).store.users = s.store.users :=
    (s.store.extends_performAll (by simpa using hop)).users_eq
  cases h with
  | issue u s' hstart =>
    rw [(startSession_eq_ok hstart).2]
    exact hperforming rfl
  | finish u s' _ hend =>
    obtain ⟨token, -, -, rfl⟩ := endSession?_eq_some hend
    exact hperforming rfl
  | noteLogin | note => exact hperforming rfl
  | accept | letIn | leave | rest => rfl

/-- Visits other than logins and logouts leave the sessions alone. -/
theorem Moves.sessions_eq_of_other (h : v.Moves now s stage stage' s')
    (hlogin : ¬ Reaches v.request .login) (hlogout : ¬ Reaches v.request .logout)
    (hstage : ∀ u, stage ≠ .identified u) :
    s'.store.sessions = s.store.sessions ∧ ∀ u, stage' ≠ .identified u := by
  cases h with
  | accept u hreaches => exact absurd hreaches hlogin
  | finish u s' hreaches => exact absurd hreaches hlogout
  | issue u => exact absurd rfl (hstage u)
  | noteLogin | note => exact ⟨s.sessions_performing rfl, nofun⟩
  | letIn | leave | rest => exact ⟨rfl, nofun⟩

end Moves

end Visit

/-! ## Turns -/

/-- The server with the users and sessions of another. -/
def withAccounts (t s : Server) : Server :=
  { t with store := { t.store with users := s.store.users, sessions := s.store.sessions } }

/-- What happens next: a visit takes its next step, the operation of that step fails, or someone does
something that is not about users and sessions. -/
inductive Turn where
  | advance (visit : Nat) (now : Instant)
  | fail (visit : Nat)
  | elsewhere (t : Server)

/-- A server with the visits to it. -/
structure Traffic where
  server : Server
  stages : Nat → Stage

namespace Traffic

/-- A server to which all visits have yet to come. -/
def initial (s : Server) : Traffic := ⟨s, fun _ => .arrived⟩

variable (visits : Nat → Visit)

/-- Server and visits after a turn. -/
def after (c : Traffic) : Turn → Traffic
  | .advance i now =>
    let (stage, server) := (visits i).next now c.server (c.stages i)
    { server, stages := Function.update c.stages i stage }
  | .fail i => { c with stages := Function.update c.stages i (c.stages i).failed }
  | .elsewhere t => { c with server := t.withAccounts c.server }

/-- Server and visits after turns, one after the other. -/
def afterAll (c : Traffic) (turns : List Turn) : Traffic := turns.foldl (after visits) c

variable {visits} {c : Traffic}

theorem afterAll_concat (turns : List Turn) (turn : Turn) :
    c.afterAll visits (turns ++ [turn]) = (c.afterAll visits turns).after visits turn := by
  rw [afterAll, List.foldl_append]
  rfl

/-- A turn moves one visit, lets its step fail, or leaves stages, users and sessions as they are. -/
theorem after_cases (c : Traffic) (visits : Nat → Visit) (turn : Turn) :
    (∃ i now stage, (visits i).Moves now c.server (c.stages i) stage (c.after visits turn).server ∧
      (c.after visits turn).stages = Function.update c.stages i stage) ∨
    (∃ i, (c.after visits turn).server = c.server ∧
      (c.after visits turn).stages = Function.update c.stages i (c.stages i).failed) ∨
    ((c.after visits turn).server.store.users = c.server.store.users ∧
      (c.after visits turn).server.store.sessions = c.server.store.sessions ∧
      (c.after visits turn).stages = c.stages) := by
  cases turn with
  | advance i now => exact .inl ⟨i, now, _, (visits i).moves_next now c.server (c.stages i), rfl⟩
  | fail i => exact .inr (.inl ⟨i, rfl, rfl⟩)
  | elsewhere t => exact .inr (.inr ⟨rfl, rfl, rfl⟩)

theorem users_after (turn : Turn) :
    (c.after visits turn).server.store.users = c.server.store.users := by
  rcases c.after_cases visits turn with ⟨i, now, stage, hmoves, -⟩ | ⟨i, hserver, -⟩ | ⟨husers, -⟩
  · exact hmoves.users_eq
  · rw [hserver]
  · exact husers

theorem users_afterAll (turns : List Turn) :
    (c.afterAll visits turns).server.store.users = c.server.store.users := by
  induction turns generalizing c with
  | nil => rfl
  | cons turn turns ih => exact (ih (c := c.after visits turn)).trans (users_after turn)

theorem rank_le_after (c : Traffic) (visits : Nat → Visit) (turn : Turn) (i : Nat) :
    (c.stages i).rank ≤ ((c.after visits turn).stages i).rank := by
  rcases c.after_cases visits turn with ⟨j, now, stage, hmoves, hstages⟩ | ⟨j, -, hstages⟩ |
    ⟨-, -, hstages⟩
  · rw [hstages, Function.update_apply]
    split
    next hij => exact hij ▸ hmoves.rank_le
    next => exact Nat.le_refl _
  · rw [hstages, Function.update_apply]
    split
    next hij => exact hij ▸ (c.stages i).rank_le_failed
    next => exact Nat.le_refl _
  · rw [hstages]

theorem rank_le_afterAll (c : Traffic) (visits : Nat → Visit) (turns : List Turn) (i : Nat) :
    (c.stages i).rank ≤ ((c.afterAll visits turns).stages i).rank := by
  induction turns generalizing c with
  | nil => exact Nat.le_refl _
  | cons turn turns ih => exact (c.rank_le_after visits turn i).trans (ih (c.after visits turn))

/-- What a handler does in the store that is not about users and sessions is a turn of its own. -/
theorem after_performing (c : Traffic) (visits : Nat → Visit) {op : Operation}
    (hsession : op.isSession = false) (henrolling : op.isEnrolling = false) :
    (c.after visits (.elsewhere (c.server.performing [op]))).server = c.server.performing [op] := by
  have husers : (c.server.performing [op]).store.users = c.server.store.users :=
    (c.server.store.extends_performAll (by simpa using henrolling)).users_eq
  have hsessions := c.server.sessions_performing hsession
  rw [after, withAccounts, ← husers, ← hsessions]

end Traffic

/-! ## A visit alone -/

theorem withAccounts_eq_self {t s : Server} (husers : t.store.users = s.store.users)
    (hsessions : t.store.sessions = s.store.sessions) : t.withAccounts s = t := by
  rw [withAccounts, ← husers, ← hsessions]

theorem noteUser_congr (s : Server) {m m' : Moment} (h : m.now = m'.now) (u : User) (action : String)
    (req : Request) : s.noteUser m u action req = s.noteUser m' u action req := by
  rw [noteUser_eq, noteUser_eq, h]

theorem noteLogin_congr (s : Server) {m m' : Moment} (h : m.now = m'.now) (u : User) (req : Request) :
    s.noteLogin m u req = s.noteLogin m' u req := by
  rw [noteLogin_eq, noteLogin_eq, h]

namespace Visit

/-- All steps of a visit, with nothing between them. -/
def pass (v : Visit) (now : Instant) (s : Server) : Server :=
  let first := v.next now s .arrived
  let second := v.next now first.2 first.1
  (v.next now second.2 second.1).2

theorem afterAll_pass (v : Visit) (now : Instant) (s : Server) :
    ((Traffic.initial s).afterAll (fun _ => v) (.replicate 3 (.advance 0 now))).server =
      v.pass now s := by
  simp [Traffic.afterAll, Traffic.after, Traffic.initial, pass, Function.update_self]

section Pass

variable {m : Moment} {req : Request} {s : Server}

theorem action?_of_reaches {v : Visit} {route : Route} (h : Reaches v.request route) :
    v.action? = route.action? := by
  rw [action?, h.route_eq, if_pos h]

theorem pass_login (h : Reaches req .login) :
    pass ⟨req, m.token⟩ m.now s = (login m req s).2 := by
  rw [login]
  simp only [pass, next, welcome, if_pos h]
  cases s.identify req with
  | error e => rfl
  | ok u =>
    simp only [Except.toOption, Option.elim]
    cases s.startSession m.now u m.token with
    | error e => rfl
    | ok s' => exact s'.noteLogin_congr rfl u req

theorem pass_logout (h : Reaches req .logout) :
    pass ⟨req, m.token⟩ m.now s = (logout m req s).2 := by
  have hlogin : ¬ Reaches req .login := fun h' => by cases h.unique h'
  have haction : action? ⟨req, m.token⟩ = Route.action? .logout := action?_of_reaches h
  rw [logout, withUser]
  simp only [pass, next, welcome, if_neg hlogin, haction, Route.action?,
    Option.isSome_some, if_true]
  cases s.userOf? m.now req with
  | none => rfl
  | some u =>
    have hnoted : s.noteUser (moment ⟨req, m.token⟩ m.now) u "auth:logout" req =
        s.noteUser m u "auth:logout" req := s.noteUser_congr rfl u _ req
    simp only [Option.elim, Option.getD_some, hnoted, if_pos h]
    cases (s.noteUser m u "auth:logout" req).endSession? req <;> rfl

theorem sessions_pass_of_other {v : Visit} {now : Instant} (hlogin : ¬ Reaches v.request .login)
    (hlogout : ¬ Reaches v.request .logout) :
    (v.pass now s).store.sessions = s.store.sessions := by
  simp only [pass]
  have hfirst := (v.moves_next now s .arrived).sessions_eq_of_other hlogin hlogout nofun
  generalize v.next now s .arrived = first at hfirst ⊢
  have hsecond := (v.moves_next now first.2 first.1).sessions_eq_of_other hlogin hlogout hfirst.2
  generalize v.next now first.2 first.1 = second at hsecond ⊢
  have hthird := (v.moves_next now second.2 second.1).sessions_eq_of_other hlogin hlogout hsecond.2
  exact hthird.1.trans (hsecond.1.trans hfirst.1)

end Pass

end Visit

theorem users_handle (m : Moment) (req : Request) (s : Server) :
    (handle m req s).2.store.users = s.store.users := by
  obtain ⟨ops, hstore, hops⟩ := (handle_step m req s).exists_operations
  rw [hstore]
  exact (s.store.extends_performAll hops).users_eq

theorem sessions_pass (m : Moment) (req : Request) (s : Server) :
    (Visit.pass ⟨req, m.token⟩ m.now s).store.sessions = (handle m req s).2.store.sessions := by
  rcases handle_cases m req s with ⟨route, more, hreach, hhandle⟩ | ⟨hsame, hnone⟩
  · rw [hhandle]
    by_cases hlogin : route = .login
    · subst hlogin
      rw [Visit.pass_login hreach]
      rfl
    by_cases hlogout : route = .logout
    · subst hlogout
      rw [Visit.pass_logout hreach]
      rfl
    · rw [keepsSessions_handler hlogin hlogout, Visit.sessions_pass_of_other]
      · exact fun h => hlogin (hreach.unique h)
      · exact fun h => hlogout (hreach.unique h)
  · rw [hsame, Visit.sessions_pass_of_other (hnone _) (hnone _)]

/-- A request that is alone takes the steps of its visit, and what its handler does beside them is not about
users and sessions. -/
theorem handle_alone (m : Moment) (req : Request) (s : Server) :
    ((Traffic.initial s).afterAll (fun _ => ⟨req, m.token⟩)
      (.replicate 3 (.advance 0 m.now) ++ [.elsewhere (handle m req s).2])).server =
        (handle m req s).2 := by
  rw [Traffic.afterAll_concat]
  refine withAccounts_eq_self ?_ ?_
  · rw [Traffic.users_afterAll, users_handle]
    rfl
  · rw [Visit.afterAll_pass, sessions_pass]

end Server

end JavaReview
