import JavaReview.Proofs.Store.Operations
import JavaReview.Server.Route
import JavaReview.Toolbox

/-!
What a request and a call of a tool can do. `Server.Step` lists the ways in which one request can change
a server, with the conditions under which each of them is open (`Server.handle_step`); `Toolbox.Step`
does the same for calls of tools (`Toolbox.call_step`).
-/

namespace JavaReview

open Http (Request)

namespace Store

/-! ## Operations beside the content -/

/-- Whether an operation is about who uses the store. -/
def Operation.isAccess : Operation → Bool
  | addSession .. | endSession _ | log .. => true
  | _ => false

/-- Whether an operation leaves reviews, flags and users alone: it is about access or waivers. -/
def Operation.isAside : Operation → Bool
  | addWaiver .. | revokeWaiver .. => true
  | op => op.isAccess

@[simp] theorem Operation.isAccess_log (now : Instant) (username action resource : String)
    (detail : Json) : (log now username action resource detail).isAccess = true := rfl

@[simp] theorem Operation.isAccess_addSession (owner : Int) (token : String) (expires : Instant) :
    (addSession owner token expires).isAccess = true := rfl

@[simp] theorem Operation.isAccess_endSession (token : String) :
    (endSession token).isAccess = true := rfl

@[simp] theorem Operation.isAside_addWaiver (now : Instant)
    (rule filename pattern reason createdBy : String) (expires : Instant) :
    (addWaiver now rule filename pattern reason createdBy expires).isAside = true := rfl

@[simp] theorem Operation.isAside_revokeWaiver (now : Instant) (id : Int) :
    (revokeWaiver now id).isAside = true := rfl

@[simp] theorem Operation.isAside_log (now : Instant) (username action resource : String)
    (detail : Json) : (log now username action resource detail).isAside = true := rfl

theorem Operation.isAside_of_isAccess {op : Operation} (h : op.isAccess = true) :
    op.isAside = true := by
  cases op <;> first | exact h | rfl

/-- Among operations about access and one other there are no further ones. -/
theorem Operation.isAccess_or_eq {op other : Operation} {before after : List Operation}
    (hbefore : ∀ op ∈ before, op.isAccess = true) (hafter : ∀ op ∈ after, op.isAccess = true)
    (hop : op ∈ before ++ other :: after) : op.isAccess = true ∨ op = other := by
  rcases List.mem_append.mp hop with hop | hop
  · exact .inl (hbefore op hop)
  · rcases List.mem_cons.mp hop with hop | hop
    · exact .inr hop
    · exact .inl (hafter op hop)

/-- Stores that differ at most in sessions, waivers and notes. -/
structure SameContent (s s' : Store) : Prop where
  isOpen_eq : s'.isOpen = s.isOpen
  isWritable_eq : s'.isWritable = s.isWritable
  reviews_eq : s'.reviews = s.reviews
  findings_eq : s'.findings = s.findings
  ruleStates_eq : s'.ruleStates = s.ruleStates
  users_eq : s'.users = s.users

namespace SameContent

variable {s s' s'' : Store}

theorem refl (s : Store) : SameContent s s := ⟨rfl, rfl, rfl, rfl, rfl, rfl⟩

theorem trans (h : SameContent s s') (h' : SameContent s' s'') : SameContent s s'' where
  isOpen_eq := h'.isOpen_eq.trans h.isOpen_eq
  isWritable_eq := h'.isWritable_eq.trans h.isWritable_eq
  reviews_eq := h'.reviews_eq.trans h.reviews_eq
  findings_eq := h'.findings_eq.trans h.findings_eq
  ruleStates_eq := h'.ruleStates_eq.trans h.ruleStates_eq
  users_eq := h'.users_eq.trans h.users_eq

end SameContent

theorem Changes.sameContent {s s' : Store} {op : Operation} (hop : op.isAside = true)
    (h : Changes s op s') : SameContent s s' := by
  cases h with
  | nothing => exact .refl s
  | session | sessionEnd | waiver | revocation | note => exact ⟨rfl, rfl, rfl, rfl, rfl, rfl⟩
  | review | flags | user | closing | reopening => cases hop

theorem sameContent_performAll (s : Store) {ops : List Operation}
    (hops : ∀ op ∈ ops, op.isAside = true) : SameContent s (s.performAll ops) := by
  refine performAll_induction (P := SameContent s) ?_ (.refl s)
  intro op hop t t' hc h
  exact h.trans (hc.sameContent (hops op hop))

theorem sameContent_access (s : Store) {ops : List Operation}
    (hops : ∀ op ∈ ops, op.isAccess = true) : SameContent s (s.performAll ops) :=
  s.sameContent_performAll fun op hop => Operation.isAside_of_isAccess (hops op hop)

end Store

namespace Server

open Store (Operation)

/-! ## Requests -/

/-- The server after operations of its store. -/
def performing (s : Server) (ops : List Operation) : Server :=
  { s with store := s.store.performAll ops }

theorem performing_performing (s : Server) (ops ops' : List Operation) :
    (s.performing ops).performing ops' = s.performing (ops ++ ops') := by
  simp only [performing, Store.performAll_append]

/-- What is stored of an operation that succeeds is what performing it leaves. -/
theorem eq_performing (s : Server) (op : Operation) {store : Store}
    (h : op.run s.store = .ok store) : { s with store } = s.performing [op] := by
  rw [performing, Store.performAll_cons, Store.perform_of_run h, Store.performAll_nil]

theorem note_eq (s : Server) (m : Moment) (username action resource : String) (detail : Json) :
    s.note m username action resource detail =
      s.performing [.log m.now username action resource detail] := by
  rw [note, performing, Store.performAll_cons, Store.performAll_nil, Store.perform, Operation.run]
  cases s.store.log m.now username action resource detail <;> rfl

theorem noteUser_eq (s : Server) (m : Moment) (u : User) (action : String) (req : Request) :
    s.noteUser m u action req =
      s.performing [.log m.now u.username action req.target.path (.obj [("method", .str req.method)])] :=
  s.note_eq m _ _ _ _

theorem noteLogin_eq (s : Server) (m : Moment) (u : User) (req : Request) :
    s.noteLogin m u req =
      s.performing [.log m.now u.username "login" "" (.obj [("ip", .str req.remote)])] :=
  s.note_eq m _ _ _ _

theorem startSession_eq_ok {s s' : Server} {now : Instant} {u : User} {token : String}
    (h : s.startSession now u token = .ok s') :
    s.store.addSession u.id token (now.addSeconds s.sessionLength) = .ok s'.store ∧
      s' = s.performing [.addSession u.id token (now.addSeconds s.sessionLength)] := by
  obtain ⟨store, hadd, rfl⟩ := map_eq_ok_iff.mp h
  exact ⟨hadd, eq_performing s (.addSession _ _ _) hadd⟩

theorem endSession?_eq_some {s s' : Server} {req : Request} (h : s.endSession? req = some s') :
    ∃ token, sessionToken? req = some token ∧ s.store.endSession token = .ok s'.store ∧
      s' = s.performing [.endSession token] := by
  obtain ⟨store, hstore, rfl⟩ := Option.map_eq_some_iff.mp h
  obtain ⟨token, htoken, hend⟩ := Option.bind_eq_some_iff.mp hstore
  have hend := toOption_eq_some_iff.mp hend
  exact ⟨token, htoken, hend, eq_performing s (.endSession token) hend⟩

theorem storeRules_eq (s : Server) (flags : List (String × Bool)) :
    s.storeRules flags = s.performing [.saveStates flags] := by
  rw [storeRules, performing, Store.performAll_cons, Store.performAll_nil, Store.perform,
    Operation.run]
  cases s.store.saveStates flags <;> rfl

/-- A request that is handled by the handler of a route. -/
structure Reaches (req : Request) (route : Route) : Prop where
  path_ne : req.target.rawPath ≠ ['*']
  path_eq : routedPath req = req.target.escapedPath
  method_ne : req.method ≠ "OPTIONS"
  route_eq : routeOf req = route

theorem Reaches.handle_eq {req : Request} {route : Route} (h : Reaches req route) (m : Moment)
    (s : Server) : ∃ more, handle m req s = ((respond (handler route m req s).1).withHeaders more,
      (handler route m req s).2) := by
  refine ⟨[("X-Request-ID", requestId m req)] ++ s.originHeaders req, ?_⟩
  rw [handle, if_neg h.path_ne, if_neg (not_not_intro h.path_eq), dispatch, if_neg h.method_ne,
    h.route_eq]
  simp only [Http.Response.withHeaders, List.append_assoc]

/-- A refusal has the status of an error. -/
theorem exists_eq_ok_of_status {o : Outcome} (h : (respond o).status = 200) : ∃ r, o = .ok r := by
  cases o with
  | ok r => exact ⟨r, rfl⟩
  | error e => cases e <;> cases h

/-- A request of an administrator. -/
def FromAdmin (s : Server) (now : Instant) (req : Request) : Prop :=
  ∃ u, s.userOf? now req = some u ∧ u.isAdmin = true

/-- A request that submits a source text with a filename for an analysis. -/
inductive Submits (s : Server) (req : Request) : String → String → Prop
  | record (record : List (String × String)) : Reaches req .analyze →
      readTexts (s.recordBody req) ["code", "filename"] = .ok record →
      Submits s req (Json.textOf record "code") (Json.textOf record "filename")
  | file (file : Http.Form.File) : Reaches req .upload → s.uploadedFile req = .ok file →
      Submits s req (String.ofList file.content) file.name

/-- What a request can make of a server. -/
inductive Step (m : Moment) (req : Request) (s : Server) : Server → Prop
  | access (ops : List Operation) : (∀ op ∈ ops, op.isAccess = true) →
      Step m req s (s.performing ops)
  | allowance (allowance : Option Nat) : Step m req s { s with allowance }
  | waivers (ops : List Operation) : s.FromAdmin m.now req → (∀ op ∈ ops, op.isAside = true) →
      Step m req s (s.performing ops)
  | rules (us : RuleUpdates) (before after : List Operation) : Reaches req .updateRules →
      s.FromAdmin m.now req → readUpdates (.whole req.body) = .ok us →
      (∀ op ∈ before, op.isAccess = true) → (∀ op ∈ after, op.isAccess = true) →
      Step m req s ((s.setRules us).performing
        (before ++ .saveStates (s.registry.accepted us) :: after))
  | review (source filename : String) (r : Review) (allowance : Option Nat) :
      Submits s req source filename → s.review m.now source filename = .ok r →
      Step m req s ({ s with allowance }.performing
        [.save m.now (r.applyWaivers (s.activeWaivers m.now))])

section Handlers

variable (m : Moment) (req : Request) (s : Server)

theorem Step.refl : Step m req s s := .access [] (by simp)

/-- A request that only users may send is noted and goes on, or nothing happens. -/
theorem withUser_cases (action : String) (next : User → Handler) :
    (withUser action next m req s).2 = s ∨
      ∃ u op, s.userOf? m.now req = some u ∧ op.isAccess = true ∧
        (withUser action next m req s).2 = (next u m req (s.performing [op])).2 := by
  simp only [withUser, noteUser_eq]
  cases s.userOf? m.now req with
  | none => exact .inl rfl
  | some u =>
    refine .inr ⟨u, _, rfl, ?_, rfl⟩
    rfl

/-- A request that only administrators may send goes on for them alone; for others at most its note is
left. -/
theorem withAdmin_step (action : String) (next : User → Handler)
    (hnext : ∀ u op, s.FromAdmin m.now req → op.isAccess = true →
      Step m req s (next u m req (s.performing [op])).2) :
    Step m req s (withAdmin action next m req s).2 := by
  unfold withAdmin
  rcases withUser_cases m req s action _ with h | ⟨u, op, huser, hop, h⟩
  · rw [h]
    exact .refl m req s
  · rw [h]
    cases hadmin : u.isAdmin with
    | true => exact hnext u op ⟨u, huser, hadmin⟩ hop
    | false => exact .access [op] (by simpa using hop)

theorem login_step : Step m req s (login m req s).2 := by
  unfold login
  split
  · exact .refl m req s
  · split
    · exact .refl m req s
    next hstart =>
      simp only
      rw [(startSession_eq_ok hstart).2, noteLogin_eq, performing_performing]
      exact .access _ (by simp)

theorem logout_step : Step m req s (logout m req s).2 := by
  unfold logout
  rcases withUser_cases m req s "auth:logout" _ with h | ⟨u, op, -, hop, h⟩
  · rw [h]
    exact .refl m req s
  · rw [h]
    simp only
    cases hend : (s.performing [op]).endSession? req with
    | none => exact .access [op] (by simpa using hop)
    | some s' =>
      obtain ⟨token, -, -, rfl⟩ := endSession?_eq_some hend
      rw [Option.getD_some, performing_performing]
      exact .access _ (by simp [hop])

/-- A handler that only reads for users leaves at most the note. -/
theorem withUser_step (action : String) (next : User → Handler)
    (hnext : ∀ u s', (next u m req s').2 = s') : Step m req s (withUser action next m req s).2 := by
  rcases withUser_cases m req s action next with h | ⟨u, op, -, hop, h⟩
  · rw [h]
    exact .refl m req s
  · rw [h, hnext]
    exact .access [op] (by simpa using hop)

theorem addWaiver_step : Step m req s (addWaiver m req s).2 := by
  refine withAdmin_step m req s _ _ fun u op hadmin hop => ?_
  have hnoted : Step m req s (s.performing [op]) := .access [op] (by simpa using hop)
  split
  · exact hnoted
  · split
    · exact hnoted
    next hadd =>
      rw [eq_performing _ (.addWaiver _ _ _ _ _ _ _) (map_eq_ok_iff.mpr ⟨_, hadd, rfl⟩), note_eq,
        performing_performing, performing_performing]
      exact .waivers _ hadmin (by simp [hop, Operation.isAside_of_isAccess])

theorem revokeWaiver_step (id : String) : Step m req s (revokeWaiver id m req s).2 := by
  refine withAdmin_step m req s _ _ fun u op hadmin hop => ?_
  have hnoted : Step m req s (s.performing [op]) := .access [op] (by simpa using hop)
  split
  · exact hnoted
  · split
    · exact hnoted
    next hrevoke =>
      rw [eq_performing _ (.revokeWaiver _ _) hrevoke, note_eq, performing_performing,
        performing_performing]
      exact .waivers _ hadmin (by simp [hop, Operation.isAside_of_isAccess])

theorem updateRules_step (hreach : Reaches req .updateRules) :
    Step m req s (updateRules m req s).2 := by
  refine withAdmin_step m req s _ _ fun u op hadmin hop => ?_
  simp only
  split
  · exact .access [op] (by simpa using hop)
  next us hread =>
    rw [changeRules, storeRules_eq, note_eq]
    exact .rules us [op] [_] hreach hadmin hread (by simpa using hop)
      (by simp)

theorem analyzeSource_step (allowance : Option Nat) {source filename : String}
    (hsubmits : Submits s req source filename) :
    Step m req s ({ s with allowance }.analyzeSource m.now source filename).2 := by
  unfold analyzeSource
  split
  · exact .allowance allowance
  next r hreview =>
    simp only
    split
    · exact .allowance allowance
    next hsave =>
      rw [eq_performing { s with allowance } (.save _ _) (map_eq_ok_iff.mpr ⟨_, hsave, rfl⟩)]
      exact .review source filename r allowance hsubmits hreview

/-- What a handler leaves for every number of analyses that are allowed, it leaves if they are
limited. -/
theorem withAllowance_step (next : Handler)
    (hnext : ∀ allowance, Step m req s (next m req { s with allowance }).2) :
    Step m req s (withAllowance next m req s).2 := by
  unfold withAllowance
  split
  next hnone =>
    have h := hnext s.allowance
    exact h
  next => exact .refl m req s
  next n hsome => exact hnext (some n)

theorem analyze_step (hreach : Reaches req .analyze) : Step m req s (analyze m req s).2 := by
  refine withAllowance_step m req s _ fun allowance => ?_
  split
  · exact .allowance allowance
  next record hread => exact analyzeSource_step m req s allowance (.record record hreach hread)

theorem upload_step (hreach : Reaches req .upload) : Step m req s (upload m req s).2 := by
  refine withAllowance_step m req s _ fun allowance => ?_
  split
  · exact .allowance allowance
  next file hread => exact analyzeSource_step m req s allowance (.file file hreach hread)

theorem handler_step {route : Route} (hreach : Reaches req route) :
    Step m req s (handler route m req s).2 := by
  cases route with
  | login => exact login_step m req s
  | logout => exact logout_step m req s
  | me => exact withUser_step m req s _ _ fun _ _ => rfl
  | analyze => exact analyze_step m req s hreach
  | upload => exact upload_step m req s hreach
  | updateRules => exact updateRules_step m req s hreach
  | listWaivers => exact withUser_step m req s _ _ fun _ _ => rfl
  | addWaiver => exact addWaiver_step m req s
  | revokeWaiver id => exact revokeWaiver_step m req s id
  | health | listReviews | review | reviewFile | summary | rules | ruleDetails | unknown =>
    exact .refl m req s

/-- Every request makes one of the steps. -/
theorem handle_step : Step m req s (handle m req s).2 := by
  unfold handle
  by_cases hpath : req.target.rawPath = ['*']
  · rw [if_pos hpath]
    exact .refl m req s
  by_cases hclean : routedPath req = req.target.escapedPath
  · rw [if_neg hpath, if_neg (not_not_intro hclean), dispatch]
    by_cases hmethod : req.method = "OPTIONS"
    · rw [if_pos hmethod]
      exact .refl m req s
    · rw [if_neg hmethod]
      exact handler_step m req s ⟨hpath, hclean, hmethod, rfl⟩
  · rw [if_neg hpath, if_pos hclean]
    exact .refl m req s

end Handlers

end Server

namespace Toolbox

/-! ## Calls of tools -/

/-- What a call can make of a toolbox with a store. -/
inductive Step (now : Instant) (tool : Tool) (args : Arguments) (t : Toolbox) (store : Store) :
    Toolbox → Prop
  | nothing : Step now tool args t store t
  | review (r : Review) : tool = .analyzeSource → flagArgument args "save" = true →
      t.review now args = .ok r →
      Step now tool args t store { t with store := some (store.perform (.save now r)) }
  | rules (us : RuleUpdates) : tool = .setRules → readUpdates (textArgument args "updates") = .ok us →
      Step now tool args t store { t.withStates us with
        store := some (store.perform (.saveStates (t.registry.accepted us))) }

section Tools

variable (now : Instant) (args : Arguments) {t : Toolbox} {store : Store}

theorem analyzeSource_step (hstore : t.store = some store) :
    Step now .analyzeSource args t store (t.analyzeSource now args).2 := by
  unfold analyzeSource
  cases hreview : t.review now args with
  | error e => exact .nothing
  | ok r =>
    by_cases hflag : flagArgument args "save" = true
    · simp only [if_pos hflag, save, hstore]
      cases hsave : store.save now r with
      | error e => exact .nothing
      | ok result =>
        have hrun : store.perform (.save now r) = result.1 :=
          Store.perform_of_run (map_eq_ok_iff.mpr ⟨_, hsave, rfl⟩)
        simp only [← hrun]
        exact .review r rfl hflag hreview
    · simp only [if_neg hflag]
      exact .nothing

theorem setRules_step (hstore : t.store = some store) :
    Step now .setRules args t store (t.setRules args).2 := by
  unfold setRules
  cases hread : readUpdates (textArgument args "updates") with
  | error e => exact .nothing
  | ok us =>
    have hsame : (t.withStates us).store = some store := hstore
    have h : Step now .setRules args t store { t.withStates us with
        store := some (store.perform (.saveStates (t.registry.accepted us))) } :=
      .rules us rfl hread
    rw [Store.perform, Store.Operation.run] at h
    simp only [storeStates, hsame]
    cases hsave : store.saveStates (t.registry.accepted us) with
    | error e =>
      rw [hsave, ← hsame] at h
      exact h
    | ok store' =>
      rw [hsave] at h
      exact h

/-- Every call of a tool makes one of the steps. -/
theorem call_step (tool : Tool) (hstore : t.store = some store) :
    Step now tool args t store (t.call now tool args).2 := by
  cases tool with
  | analyzeSource => exact analyzeSource_step now args hstore
  | listRules => exact .nothing
  | setRules => exact setRules_step now args hstore

end Tools

end Toolbox

end JavaReview
