import JavaReview.Proofs.Server.Visits

/-!
Who is let in. In a run that starts without sessions, a session goes back to a login that started it after
its password was accepted (`Server.Live`). Whoever is let in shows the token of a session that was not
ended since, and if tokens are never drawn twice, a token whose session was ended is of no use any more
(`Server.admitted_only_while_live`). It is the end of the session that counts, and not that the logout was
let in: between the two, or if the session cannot be ended, others are let in with the token
(`Server.admitted_after_logout`).
-/

namespace JavaReview

open Http (Request)

namespace Server

/-! ## What a turn does -/

section Turns

variable (visits : Nat → Visit) (c : Traffic) (turn : Turn) (i : Nat)

/-- A turn in which a visit is let in as a user. -/
structure Admits (u : User) : Prop where
  arrived : c.stages i = .arrived
  admitted : (c.after visits turn).stages i = .admitted u

/-- A turn in which the name and the password that a visit gives are accepted. -/
structure Accepts (u : User) : Prop where
  arrived : c.stages i = .arrived
  identified : (c.after visits turn).stages i = .identified u

/-- A turn in which the session of a visit that logs in is started. -/
structure Issues (u : User) : Prop where
  identified : c.stages i = .identified u
  entered : (c.after visits turn).stages i = .entered u

/-- A turn in which a logout ends the session of a token. -/
structure Ends (token : String) : Prop where
  token_eq : sessionToken? (visits i).request = some token
  noted : ∃ u, c.stages i = .noted u
  loggedOut : (c.after visits turn).stages i = .loggedOut

end Turns

/-- A request that gives the name of a user and a password that fits what is kept for the user. -/
def Identifies (s : Server) (req : Request) (u : User) : Prop :=
  ∃ record row, readTexts (.whole req.body) ["username", "password"] = .ok record ∧
    row ∈ s.store.users ∧ row.username = Json.textOf record "username" ∧
    Password.check row.hash (Json.textOf record "password") = true ∧ row.toUser = u

theorem authenticate_eq_ok {s : Server} {username password : String} {u : User}
    (h : s.authenticate username password = .ok u) : ∃ row ∈ s.store.users,
      row.username = username ∧ Password.check row.hash password = true ∧ row.toUser = u := by
  unfold authenticate at h
  split at h
  · cases h
  next found hash huser =>
    obtain ⟨-, huser⟩ := Store.whenOpen_eq_ok_iff.mp huser
    split at h
    next hcheck =>
      cases h
      cases hrow : s.store.userRow? username with
      | none =>
        rw [hrow] at huser
        cases huser
      | some row =>
        rw [hrow] at huser
        cases huser
        exact ⟨row, List.mem_of_find?_eq_some hrow, by simpa using List.find?_some hrow, hcheck, rfl⟩
    next => cases h

theorem identifies_of_identify {s : Server} {req : Request} {u : User} (h : s.identify req = .ok u) :
    s.Identifies req u := by
  obtain ⟨record, hread, hauth⟩ := bind_eq_ok_iff.mp h
  obtain ⟨row, hrow, hname, hcheck, hu⟩ := authenticate_eq_ok hauth
  exact ⟨record, row, hread, hrow, hname, hcheck, hu⟩

section Turns

variable {visits : Nat → Visit} {c : Traffic} {turn : Turn} {i : Nat} {u : User} {token : String}

/-- A visit whose stage changes took a step, or its step failed. -/
theorem moves_of_change (h : (c.after visits turn).stages i ≠ c.stages i) :
    (∃ now, (visits i).Moves now c.server (c.stages i) ((c.after visits turn).stages i)
      (c.after visits turn).server) ∨
    (c.after visits turn).stages i = (c.stages i).failed := by
  rcases c.after_cases visits turn with ⟨j, now, stage, hmoves, hstages⟩ | ⟨j, -, hstages⟩ |
    ⟨-, -, hstages⟩
  · rw [hstages, Function.update_apply] at h
    split at h
    next hij =>
      subst hij
      exact .inl ⟨now, by rwa [hstages, Function.update_self]⟩
    next => exact absurd rfl h
  · rw [hstages, Function.update_apply] at h
    split at h
    next hij =>
      subst hij
      exact .inr (by rw [hstages, Function.update_self])
    next => exact absurd rfl h
  · exact absurd (congrFun hstages i) h

theorem Admits.exists_userOf? (h : Admits visits c turn i u) :
    ∃ now, c.server.userOf? now (visits i).request = some u := by
  rcases moves_of_change (by rw [h.arrived, h.admitted]; nofun) with ⟨now, hmoves⟩ | hfailed
  · rw [h.arrived, h.admitted] at hmoves
    generalize (c.after visits turn).server = s' at hmoves
    cases hmoves with
    | letIn _ _ huser => exact ⟨now, huser⟩
  · rw [h.arrived, h.admitted] at hfailed
    cases hfailed

theorem Accepts.identifies (h : Accepts visits c turn i u) :
    Reaches (visits i).request .login ∧ c.server.Identifies (visits i).request u := by
  rcases moves_of_change (by rw [h.arrived, h.identified]; nofun) with ⟨now, hmoves⟩ | hfailed
  · rw [h.arrived, h.identified] at hmoves
    generalize (c.after visits turn).server = s' at hmoves
    cases hmoves with
    | accept _ hreach hidentify => exact ⟨hreach, identifies_of_identify hidentify⟩
  · rw [h.arrived, h.identified] at hfailed
    cases hfailed

/-- A session that is ended was there, and is not there any more. -/
theorem Ends.sessions_eq (h : Ends visits c turn i token) :
    (∃ row ∈ c.server.store.sessions, row.token = token) ∧
      (c.after visits turn).server.store.sessions =
        c.server.store.sessions.filter (·.token != token) := by
  obtain ⟨u, hnoted⟩ := h.noted
  rcases moves_of_change (by rw [hnoted, h.loggedOut]; nofun) with ⟨now, hmoves⟩ | hfailed
  · rw [hnoted, h.loggedOut] at hmoves
    generalize (c.after visits turn).server = s' at hmoves ⊢
    cases hmoves with
    | finish _ _ _ hend =>
      obtain ⟨token', htoken, hstore, -⟩ := endSession?_eq_some hend
      cases h.token_eq.symm.trans htoken
      exact Store.endSession_eq_ok hstore
  · rw [hnoted, h.loggedOut] at hfailed
    cases hfailed

/-- A session that is there after a turn was there before, or a login has started it. -/
theorem mem_sessions_after {row : SessionRow}
    (h : row ∈ (c.after visits turn).server.store.sessions) :
    row ∈ c.server.store.sessions ∨
      ∃ i u, Issues visits c turn i u ∧ (visits i).token = row.token ∧ u.id = row.user := by
  rcases c.after_cases visits turn with ⟨i, now, stage, hmoves, hstages⟩ | ⟨i, hserver, -⟩ |
    ⟨-, hsessions, -⟩
  · have hstage : (c.after visits turn).stages i = stage := by rw [hstages, Function.update_self]
    generalize hbefore : c.stages i = before at hmoves
    generalize (c.after visits turn).server = s' at hmoves h
    cases hmoves with
    | issue u s' hstart =>
      rw [Store.sessions_of_addSession (startSession_eq_ok hstart).1] at h
      rcases List.mem_append.mp h with h | h
      · exact .inl h
      · cases List.mem_singleton.mp h
        exact .inr ⟨i, u, ⟨hbefore, hstage⟩, rfl, rfl⟩
    | finish u s' _ hend =>
      obtain ⟨token, -, hstore, -⟩ := endSession?_eq_some hend
      rw [(Store.endSession_eq_ok hstore).2] at h
      exact .inl (List.mem_of_mem_filter h)
    | noteLogin | note =>
      rw [sessions_performing _ rfl] at h
      exact .inl h
    | accept | letIn | leave | rest => exact .inl h
  · rw [hserver] at h
    exact .inl h
  · rw [hsessions] at h
    exact .inl h

theorem accepts_of_identified (h : (c.after visits turn).stages i = .identified u)
    (hbefore : c.stages i ≠ .identified u) : Accepts visits c turn i u := by
  refine ⟨?_, h⟩
  rcases moves_of_change (by rw [h]; exact hbefore.symm) with ⟨now, hmoves⟩ | hfailed
  · rw [h] at hmoves
    generalize c.stages i = before at hmoves ⊢
    generalize (c.after visits turn).server = s' at hmoves
    cases hmoves with
    | accept => rfl
  · rw [h] at hfailed
    generalize c.stages i = before at hfailed
    cases before <;> cases hfailed

end Turns

/-! ## Runs -/

/-- A server and the visits to it, after the turns of a run. -/
def traffic (start : Server) (visits : Nat → Visit) (past : List Turn) : Traffic :=
  (Traffic.initial start).afterAll visits past

/-- A token for which a login, once its password was accepted, started a session of a user, and whose
session was not ended since. -/
def Live (start : Server) (visits : Nat → Visit) (past : List Turn) (token : String) (u : User) :
    Prop :=
  ∃ i before accept mid issue since,
    past = before ++ accept :: (mid ++ issue :: since) ∧
    Reaches (visits i).request .login ∧ (visits i).token = token ∧
    Accepts visits (start.traffic visits before) accept i u ∧
    (start.traffic visits before).server.Identifies (visits i).request u ∧
    Issues visits (start.traffic visits (before ++ accept :: mid)) issue i u ∧
    ∀ between out rest j, since = between ++ out :: rest →
      ¬ Ends visits (start.traffic visits (before ++ accept :: (mid ++ issue :: between))) out j token

section Runs

variable {start : Server} {visits : Nat → Visit}

theorem traffic_concat (past : List Turn) (turn : Turn) :
    start.traffic visits (past ++ [turn]) = (start.traffic visits past).after visits turn :=
  Traffic.afterAll_concat past turn

theorem traffic_append (past more : List Turn) :
    start.traffic visits (past ++ more) = (start.traffic visits past).afterAll visits more :=
  List.foldl_append

theorem users_traffic (past : List Turn) :
    (start.traffic visits past).server.store.users = start.store.users :=
  Traffic.users_afterAll past

/-- The server has a session of a token and a user. -/
def HasSession (s : Server) (token : String) (id : Int) : Prop :=
  ∃ row ∈ s.store.sessions, row.token = token ∧ row.user = id

/-- A session that was not there at some time and is there later was started by a login between, and is
there ever since. -/
theorem exists_issues {past more : List Turn} {token : String} {id : Int}
    (hpast : ¬ (start.traffic visits past).server.HasSession token id)
    (h : (start.traffic visits (past ++ more)).server.HasSession token id) :
    ∃ before issue since i u, more = before ++ issue :: since ∧
      Issues visits (start.traffic visits (past ++ before)) issue i u ∧
      (visits i).token = token ∧ u.id = id ∧
      ∀ mid, mid <+: since →
        (start.traffic visits (past ++ (before ++ issue :: mid))).server.HasSession token id := by
  obtain ⟨before, issue, since, rfl, hbefore, hsince⟩ := exists_last_onset
    (P := fun more => (start.traffic visits (past ++ more)).server.HasSession token id)
    (by rwa [List.append_nil]) h
  obtain ⟨row, hrow, rfl, rfl⟩ := hsince [] List.nil_prefix
  rw [← List.append_assoc, traffic_concat] at hrow
  rcases mem_sessions_after hrow with hrow | ⟨i, u, hissues, htoken, hid⟩
  · exact absurd ⟨row, hrow, rfl, rfl⟩ hbefore
  · exact ⟨before, issue, since, i, u, rfl, hissues, htoken, hid, hsince⟩

theorem not_hasSession_start (hnone : start.store.sessions = []) (token : String) (id : Int) :
    ¬ (start.traffic visits []).server.HasSession token id := by
  rintro ⟨row, hrow, -⟩
  change row ∈ start.store.sessions at hrow
  rw [hnone] at hrow
  cases hrow

/-- A visit that was accepted was accepted in some turn. -/
theorem exists_accepts {past : List Turn} {i : Nat} {u : User}
    (h : (start.traffic visits past).stages i = .identified u) :
    ∃ before accept since, past = before ++ accept :: since ∧
      Accepts visits (start.traffic visits before) accept i u := by
  obtain ⟨before, accept, since, rfl, hbefore, hsince⟩ := exists_last_onset
    (P := fun past => (start.traffic visits past).stages i = .identified u) (by nofun) h
  have haccept := hsince [] List.nil_prefix
  rw [traffic_concat] at haccept
  exact ⟨before, accept, since, rfl, accepts_of_identified haccept hbefore⟩

theorem Issues.reaches {past : List Turn} {issue : Turn} {i : Nat} {u : User}
    (h : Issues visits (start.traffic visits past) issue i u) : Reaches (visits i).request .login := by
  obtain ⟨_, _, _, -, haccepts⟩ := exists_accepts h.identified
  exact haccepts.identifies.1

theorem Ends.not_hasSession {past : List Turn} {out : Turn} {j : Nat} {token : String}
    (h : Ends visits (start.traffic visits past) out j token) (id : Int) :
    ¬ (start.traffic visits (past ++ [out])).server.HasSession token id := by
  rintro ⟨row, hrow, rfl, -⟩
  rw [traffic_concat, h.sessions_eq.2] at hrow
  simpa using (List.mem_filter.mp hrow).2

/-- A session that is there belongs to a live token. -/
theorem live_of_hasSession (hnone : start.store.sessions = []) {past : List Turn} {token : String}
    {id : Int} (h : (start.traffic visits past).server.HasSession token id) :
    ∃ u, u.id = id ∧ start.Live visits past token u := by
  obtain ⟨first, issue, since, i, u, rfl, hissues, htoken, hid, hsince⟩ :=
    exists_issues (not_hasSession_start hnone token id) h
  obtain ⟨before, accept, mid, rfl, haccepts⟩ := exists_accepts hissues.identified
  obtain ⟨hreach, hidentifies⟩ := haccepts.identifies
  refine ⟨u, hid, i, before, accept, mid, issue, since, by simp, hreach, htoken, haccepts, hidentifies,
    hissues, ?_⟩
  rintro between out rest j rfl hends
  have hafter := hsince (between ++ [out]) ⟨rest, by simp⟩
  refine hends.not_hasSession id ?_
  simpa using hafter

/-- Whoever is resolved from the token of a request was let in by a login that is not over. -/
theorem live_of_userOf? (hstart : start.store.Reachable) (hnone : start.store.sessions = [])
    {past : List Turn} {now : Instant} {req : Request} {u : User}
    (hu : (start.traffic visits past).server.userOf? now req = some u) :
    ∃ token, sessionToken? req = some token ∧
      (start.traffic visits past).server.HasSession token u.id ∧ start.Live visits past token u := by
  obtain ⟨token, htoken, hsession⟩ := userOf?_eq_some_iff.mp hu
  obtain ⟨-, row, user, hrow, huser, -, rfl⟩ := Store.session_eq_ok_iff.mp hsession
  have hname : row.token = token := by simpa using List.find?_some hrow
  have hid : user.id = row.user := by simpa using List.find?_some huser
  have hhas : (start.traffic visits past).server.HasSession token user.toUser.id :=
    ⟨row, List.mem_of_find?_eq_some hrow, hname, hid.symm⟩
  obtain ⟨owner, howner, hlive⟩ := live_of_hasSession hnone hhas
  -- Users do not change in a run, so the user that logged in is the one of this id.
  have hsame : owner = user.toUser := by
    obtain ⟨_, before, _, _, _, _, -, -, -, -, ⟨_, found, -, hfound, -, -, rfl⟩, -⟩ := hlive
    have hmem := List.mem_of_find?_eq_some huser
    rw [users_traffic] at hfound hmem
    rw [hstart.accounts.user_ids.eq_of_id_eq hfound hmem howner]
  exact ⟨token, htoken, hhas, hsame ▸ hlive⟩

end Runs

/-- Visits of which no two that log in draw the same token. -/
def DistinctTokens (visits : Nat → Visit) : Prop :=
  ∀ i j, Reaches (visits i).request .login → Reaches (visits j).request .login →
    (visits i).token = (visits j).token → i = j

/-- A login starts a session once. -/
theorem Issues.not_again {start : Server} {visits : Nat → Visit} {before mid : List Turn}
    {issue again : Turn} {i : Nat} {u u' : User}
    (h : Issues visits (start.traffic visits before) issue i u) :
    ¬ Issues visits (start.traffic visits (before ++ issue :: mid)) again i u' := by
  intro hagain
  have hrank := ((start.traffic visits before).after visits issue).rank_le_afterAll visits mid i
  rw [h.entered] at hrank
  have hstage := hagain.identified
  rw [traffic_append] at hstage
  change (((start.traffic visits before).after visits issue).afterAll visits mid).stages i = _ at hstage
  rw [hstage] at hrank
  simp [Stage.rank] at hrank

/-- With tokens that are not drawn twice, a token whose session was ended has no session later on. -/
theorem not_hasSession_after_ends {start : Server} (hnone : start.store.sessions = [])
    {visits : Nat → Visit} (hfresh : DistinctTokens visits) {before mid : List Turn} {out : Turn}
    {j : Nat} {token : String} (hends : Ends visits (start.traffic visits before) out j token)
    (id : Int) : ¬ (start.traffic visits (before ++ out :: mid)).server.HasSession token id := by
  intro hlater
  -- The session was started before it was ended, and once more after that.
  obtain ⟨row, hrow, hrowToken⟩ := hends.sessions_eq.1
  obtain ⟨first, issue, since, i, u, rfl, hissues, htoken, -⟩ :=
    exists_issues (not_hasSession_start hnone token row.user) ⟨row, hrow, hrowToken, rfl⟩
  rw [List.append_cons] at hlater
  obtain ⟨second, again, -, j', u', rfl, hissues', htoken', -⟩ :=
    exists_issues (hends.not_hasSession id) hlater
  have hsame : i = j' := hfresh i j' hissues.reaches hissues'.reaches (htoken.trans htoken'.symm)
  subst hsame
  have hpast : first ++ issue :: since ++ [out] ++ second =
      first ++ issue :: (since ++ out :: second) := by simp
  rw [List.nil_append] at hissues
  rw [hpast] at hissues'
  exact hissues.not_again hissues'

/-- **Sessions.** In a run of requests that starts without sessions, whoever is let in shows a token for
which a login started a session of theirs, once it had accepted their password, and whose session no
logout has ended since. If tokens are not drawn twice, a token whose session a logout has ended lets
nobody in any more. -/
theorem admitted_only_while_live (start : Server) (hstart : start.store.Reachable)
    (hnone : start.store.sessions = []) (visits : Nat → Visit) (hfresh : DistinctTokens visits)
    (run : List Turn) :
    (∀ before turn after i u, run = before ++ turn :: after →
      Admits visits (start.traffic visits before) turn i u →
      ∃ token, sessionToken? (visits i).request = some token ∧ start.Live visits before token u) ∧
    ∀ before out mid turn after i j token, run = before ++ out :: (mid ++ turn :: after) →
      Ends visits (start.traffic visits before) out j token →
      sessionToken? (visits i).request = some token →
      ∀ u, ¬ Admits visits (start.traffic visits (before ++ out :: mid)) turn i u := by
  constructor
  · intro before turn after i u _ hadmits
    obtain ⟨now, huser⟩ := hadmits.exists_userOf?
    obtain ⟨token, htoken, -, hlive⟩ := live_of_userOf? hstart hnone huser
    exact ⟨token, htoken, hlive⟩
  · intro before out mid turn after i j token _ hends htoken u hadmits
    obtain ⟨now, huser⟩ := hadmits.exists_userOf?
    obtain ⟨token', htoken', hhas, -⟩ := live_of_userOf? hstart hnone huser
    cases htoken.symm.trans htoken'
    exact not_hasSession_after_ends hnone hfresh hends u.id hhas

/-- A server with a user and without sessions. -/
def quietServer : Server where
  store := Store.empty.performAll
    [.addUser (.ofParts 1700000000 0) "ada" (.ofKey (Password.key "analytical")) "viewer"]

/-- The user of that server. -/
def ada : User := ⟨1, "ada", "viewer", .utc (.ofParts 1700000000 0)⟩

/-- A login, for which the token `t` is drawn. -/
def signIn : Visit where
  token := "t"
  request :=
    { method := "POST", target := .ofText "/api/v1/auth/login", headers := []
      body := "\x7b\"username\":\"ada\",\"password\":\"analytical\"\x7d" }

/-- A visit that shows the token `t`. -/
def withToken (method path : String) : Visit where
  token := ""
  request :=
    { method, target := .ofText path, headers := [("Cookie", "jreview_session=t")], body := "" }

/-- A login, a logout, and then visits of the user. -/
def stay : Nat → Visit
  | 0 => signIn
  | 1 => withToken "POST" "/api/v1/auth/logout"
  | _ => withToken "GET" "/api/v1/auth/me"

/-- The next step of a visit, a minute after the user was created. -/
def soon (i : Nat) : Turn := .advance i (.ofParts 1700000060 0)

theorem distinctTokens_stay : DistinctTokens stay := by
  have hlogin (i : Nat) (h : Reaches (stay i).request .login) : i = 0 := by
    rcases i with _ | _ | i
    · rfl
    · exact absurd h (by decide +kernel)
    · have hother : ¬ Reaches (withToken "GET" "/api/v1/auth/me").request .login := by decide +kernel
      exact absurd h hother
  intro i j hi hj _
  rw [hlogin i hi, hlogin j hj]

/-- A user logs in and is known by the token until the session is ended, and no longer. -/
theorem admitted_only_while_live_stay :
    (Admits stay (quietServer.traffic stay [soon 0, soon 0]) (soon 2) 2 ada ∧
      quietServer.Live stay [soon 0, soon 0] "t" ada) ∧
    Ends stay (quietServer.traffic stay [soon 0, soon 0, soon 2, soon 1, soon 1]) (soon 1) 1 "t" ∧
    ∀ u, ¬ Admits stay
      (quietServer.traffic stay [soon 0, soon 0, soon 2, soon 1, soon 1, soon 1]) (soon 3) 3 u := by
  have hlive := admitted_only_while_live quietServer ⟨_, rfl⟩ (by decide +kernel) stay
    distinctTokens_stay [soon 0, soon 0, soon 2, soon 1, soon 1, soon 1, soon 3]
  have hshown : sessionToken? (withToken "GET" "/api/v1/auth/me").request = some "t" := by
    decide +kernel
  have hadmits : Admits stay (quietServer.traffic stay [soon 0, soon 0]) (soon 2) 2 ada :=
    ⟨by decide +kernel, by decide +kernel⟩
  have hends : Ends stay (quietServer.traffic stay [soon 0, soon 0, soon 2, soon 1, soon 1])
      (soon 1) 1 "t" :=
    ⟨by decide +kernel, ⟨ada, by decide +kernel⟩, by decide +kernel⟩
  obtain ⟨token, htoken, hissued⟩ := hlive.1 [soon 0, soon 0] _ _ 2 ada rfl hadmits
  cases hshown.symm.trans htoken
  exact ⟨⟨hadmits, hissued⟩, hends,
    hlive.2 [soon 0, soon 0, soon 2, soon 1, soon 1] _ [] _ [] 3 1 "t" rfl hends hshown⟩

/-- After a logout was let in, others are let in with its token as long as it has not ended the session,
and for good if the session could not be ended. -/
theorem admitted_after_logout :
    Reaches (stay 1).request .logout ∧ sessionToken? (stay 1).request = some "t" ∧
      sessionToken? (stay 2).request = some "t" ∧
      Admits stay (quietServer.traffic stay [soon 0, soon 0]) (soon 1) 1 ada ∧
      Admits stay (quietServer.traffic stay [soon 0, soon 0, soon 1]) (soon 2) 2 ada ∧
      Admits stay (quietServer.traffic stay [soon 0, soon 0, soon 1, soon 1, .fail 1]) (soon 2) 2 ada :=
  ⟨by decide +kernel, by decide +kernel, by decide +kernel, ⟨by decide +kernel, by decide +kernel⟩,
    ⟨by decide +kernel, by decide +kernel⟩, ⟨by decide +kernel, by decide +kernel⟩⟩

end Server

end JavaReview
