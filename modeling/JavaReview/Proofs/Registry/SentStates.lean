import JavaReview.Proofs.Json.RoundTrip
import JavaReview.Proofs.Registry.StoredFlags
import JavaReview.Proofs.Server.Sessions
import JavaReview.Proofs.Text.Decimal

/-!
Flags that are sent and read again. The flags of a registry are written as an object in the order of
registration, whatever characters the names of its rules have, and so they are in the answers of a server
and of the tool that switch rules (`Registry.Sends`). Read as updates, such a text gives the flags of the
registry it was sent for (`Registry.carries_of_sends`): these change nothing there, and make the flags of any
registry with the same names equal to them.
-/

namespace JavaReview

namespace Json

/-! ## Objects of flags -/

theorem within_statesJson (states : List (String × Bool)) : Within 1 (Registry.statesJson states) := by
  intro f hf
  obtain ⟨e, -, rfl⟩ := List.mem_map.mp hf
  trivial

theorem foldlM_put_eq_some {states known : List (String × Bool)}
    (hknown : ∀ n ∈ known.map (·.1), n ∉ states.map (·.1)) (h : (states.map (·.1)).Nodup) :
    (states.map fun s => (s.1, Json.bool s.2)).foldlM flags?.put known = some (known ++ states) := by
  induction states generalizing known with
  | nil => simp
  | cons e states ih =>
    rw [List.map_cons, List.nodup_cons] at h
    have hnew : known.filter (·.1 != e.1) = known := by
      refine List.filter_eq_self.mpr fun k hk => bne_iff_ne.mpr fun hname => ?_
      exact hknown k.1 (List.mem_map_of_mem hk) (hname ▸ List.mem_cons_self)
    have hput : flags?.put known (e.1, .bool e.2) = some (known ++ [e]) := by
      simp only [flags?.put, hnew]
    rw [List.map_cons, List.foldlM_cons, hput]
    change List.foldlM flags?.put (known ++ [e]) _ = _
    rw [ih _ h.2, List.append_assoc]
    · rfl
    · intro n hn
      rw [List.map_append, List.mem_append] at hn
      rcases hn with hn | hn
      · exact fun hmem => hknown n hn (List.mem_cons_of_mem _ hmem)
      · rw [List.mem_singleton.mp hn]
        exact h.1

/-- An object of flags with different names is read as these flags, in their order. -/
theorem flags?_statesJson {states : List (String × Bool)} (h : (states.map (·.1)).Nodup) :
    flags? (Registry.statesJson states) = some states :=
  foldlM_put_eq_some (by simp) h

theorem misfitField?_flags (states : List (String × Bool)) :
    misfitField? "" [] (fun _ => some .flag) (states.map fun s => (s.1, .bool s.2)) = none := by
  induction states with
  | nil => rw [List.map_nil, misfitField?]
  | cons e states ih =>
    rw [List.map_cons, misfitField?, ih, misfitOf?]
    simp [misfit?, firstMisfit]

theorem misfit?_statesJson (states : List (String × Bool)) :
    misfit? "" [] .flags (Registry.statesJson states) = none := by
  rw [Registry.statesJson, Fit.flags, misfit?]
  exact misfitField?_flags states

end Json

/-! ## Flags as updates -/

theorem RuleUpdates.flag?_eq_some {us : RuleUpdates} (h : (us.map (·.1)).Nodup) {name : String} {on : Bool}
    (hmem : (name, on) ∈ us) : us.flag? name = some on := by
  induction us with
  | nil => cases hmem
  | cons e us ih =>
    rw [List.map_cons, List.nodup_cons] at h
    rw [flag?_cons]
    rcases List.mem_cons.mp hmem with rfl | hmem
    · rw [flag?_eq_none h.1, Option.none_or, if_pos rfl]
    · rw [ih h.2 hmem, Option.some_or]

namespace Registry

theorem nodup_states (r : Registry) : (r.states.map (·.1)).Nodup := by
  rw [states, List.map_map]
  exact r.names_nodup

/-- The flag of a name in a registry, off for names that are not registered. -/
def flagOf (r : Registry) (name : String) : Bool := (RuleUpdates.flag? r.states name).getD false

theorem flag?_states {r : Registry} {e : RuleEntry} (he : e ∈ r.entries) :
    RuleUpdates.flag? r.states e.rule.name = some e.enabled :=
  RuleUpdates.flag?_eq_some r.nodup_states (List.mem_map_of_mem he)

theorem setStates_states (r : Registry) : r.setStates r.states = r := by
  apply ext_entries
  rw [setStates]
  conv_rhs => rw [← List.map_id r.entries]
  refine List.map_congr_left fun e he => ?_
  rw [updateEntry, flag?_states he]
  rfl

theorem states_eq_map (r : Registry) : r.states = r.names.map fun n => (n, r.flagOf n) := by
  rw [states, names, List.map_map]
  refine List.map_congr_left fun e he => ?_
  rw [Function.comp_apply, flagOf, flag?_states he, Option.getD_some]

/-- A registry takes the flags of another over for the names that are registered there. -/
theorem states_setStates_states {r r' : Registry} (h : ∀ n ∈ r'.names, n ∈ r.names) :
    (r'.setStates r.states).states = r'.names.map fun n => (n, r.flagOf n) := by
  rw [states, setStates, names, List.map_map, List.map_map]
  refine List.map_congr_left fun e he => ?_
  obtain ⟨e', he', hname⟩ := List.mem_map.mp (h e.rule.name (List.mem_map_of_mem he))
  have hflag := flag?_states he'
  rw [hname] at hflag
  rw [Function.comp_apply, Function.comp_apply, updateEntry_rule, updateEntry_enabled, flagOf, hflag]
  rfl

/-! ## Flags that are sent -/

/-- The texts in which the flags of a registry are sent: the object itself, the body of the answer to a
request that shows or switches rules, and what follows the first line in the answer of the tool that
switches them. -/
inductive Sends : Registry → String → Prop
  | object (r : Registry) : Sends r (statesJson r.states).compact
  | body {m : Server.Moment} {req : Http.Request} {s : Server} :
      Server.Reaches req .rules ∨ Server.Reaches req .updateRules →
      (s.handle m req).1.status = 200 → Sends (s.handle m req).2.registry (s.handle m req).1.body
  | answer {t : Toolbox} {now : Instant} {args : Toolbox.Arguments} {line text : String} :
      (t.call now .setRules args).1 = { text := line ++ "\n\n" ++ text } → '\n' ∉ line.toList →
      Sends (t.call now .setRules args).2.registry text

theorem body_updateRules {m : Server.Moment} {req : Http.Request} {s : Server} {response : Http.Response}
    (h : (Server.updateRules m req s).1 = .ok response) :
    response.body = (statesJson (Server.updateRules m req s).2.registry.states).compact ++ "\n" := by
  unfold Server.updateRules Server.withAdmin Server.withUser at h ⊢
  cases huser : s.userOf? m.now req with
  | none =>
    rw [huser] at h
    cases h
  | some u =>
    simp only [huser] at h ⊢
    split at h
    next hadmin =>
      rw [if_pos hadmin]
      split at h
      next => cases h
      next us hread =>
        cases h
        rfl
    next => cases h

theorem text_setRules {t t' : Toolbox} {args : Toolbox.Arguments} {text : String}
    (h : t.setRules args = (.ok text, t')) : ∃ line, '\n' ∉ line.toList ∧
      text = line ++ "\n\n" ++ (statesJson t'.registry.states).compact := by
  unfold Toolbox.setRules at h
  split at h
  next => cases h
  next us hread =>
    simp only at h
    split at h
    next => cases h
    next t'' hstore =>
      cases h
      refine ⟨"Applied " ++ decimal (t.registry.accepted us).length ++ " of " ++ decimal us.length ++
        " updates.", ?_, ?_⟩
      · have hdigits (n : Int) : '\n' ∉ decimalChars n := notMem_decimalChars (by decide) (by decide) n
        simp [decimal, hdigits]
      · simp [String.append_assoc]

/-- The text of the flags is sent as it is, or with a line break after it. -/
theorem Sends.eq_written {r : Registry} {text : String} (h : Sends r text) :
    text = (statesJson r.states).compact ∨ text = (statesJson r.states).compact ++ "\n" := by
  cases h with
  | object => exact .inl rfl
  | @body m req s hreach hstatus =>
    right
    rcases hreach with hreach | hreach
    · obtain ⟨more, heq⟩ := hreach.handle_eq m s
      rw [heq]
      rfl
    · obtain ⟨more, heq⟩ := hreach.handle_eq m s
      rw [heq] at hstatus ⊢
      obtain ⟨response, hresponse⟩ := Server.exists_eq_ok_of_status hstatus
      change (Server.respond (Server.updateRules m req s).1).body = _
      change (Server.updateRules m req s).1 = _ at hresponse
      rw [hresponse]
      exact body_updateRules hresponse
  | @answer t now args line text hcall hline =>
    left
    cases hrun : t.setRules args with
    | mk outcome t' =>
    rw [Toolbox.call, Toolbox.run, hrun] at hcall ⊢
    cases outcome with
    | error e => cases hcall
    | ok written =>
      obtain ⟨line', hline', rfl⟩ := text_setRules hrun
      have htext : line'.toList ++ '\n' :: '\n' :: (statesJson t'.registry.states).compact.toList =
          line.toList ++ '\n' :: '\n' :: text.toList := by
        simpa [Toolbox.answer, String.toList_append] using congrArg (·.text.toList) hcall
      have hrest := (Text.append_cons_inj_of_notMem_left hline' hline htext).2
      exact (String.toList_injective (List.cons.inj hrest).2).symm

theorem Sends.readFirst {r : Registry} {text : String} (h : Sends r text) :
    ∃ gap, Json.Blank gap ∧ Json.readFirst text.toList = .ok (statesJson r.states, gap) := by
  have hwithin := Json.within_statesJson r.states
  rcases h.eq_written with rfl | rfl
  · exact ⟨[], by simp [Json.Blank], hwithin.readFirst_compact (by decide)⟩
  · refine ⟨['\n'], by simp [Json.Blank, Json.isGap], ?_⟩
    have hread := hwithin.readFirst_writeWith (by decide) .compact
      (Json.endsNumber_cons (c := '\n') (s := []) (by decide))
    rw [Json.writeWith_compact] at hread
    rw [String.toList_append, Json.compact, String.toList_ofList]
    exact hread

/-- A text that carries the flags of a registry: the object of its names and flags in their order, no name
twice. Read as updates by a server or the tool, it changes nothing in the registry, and gives its flags to
every registry with the same names. -/
structure Carries (text : String) (r : Registry) : Prop where
  members : ∃ fields, Json.readWhole text.toList = .ok (.obj fields) ∧
    fields = r.entries.map (fun e => (e.rule.name, .bool e.enabled)) ∧ (fields.map (·.1)).Nodup
  updates : ∃ us, Server.readUpdates (.whole text) = .ok us ∧ Toolbox.readUpdates text = .ok us ∧
    r.setStates us = r ∧ ∀ r' : Registry,
      (r'.names = r.names → (r'.setStates us).states = r.states) ∧
      (r'.names.Perm r.names → (r'.setStates us).states.Perm r.states)

/-- Flags that are sent are read back. -/
theorem carries_of_sends {r : Registry} {text : String} (h : Sends r text) : Carries text r := by
  obtain ⟨gap, hgap, hread⟩ := h.readFirst
  have hwhole : Json.readWhole text.toList = .ok (statesJson r.states) := by
    have hskip := Json.skipGap_append hgap []
    rw [List.append_nil] at hskip
    rw [Json.readWhole, hread]
    simp only [bind, Except.bind, hskip]
    rfl
  have hflags := Json.flags?_statesJson r.nodup_states
  refine ⟨⟨_, hwhole, ?_, ?_⟩, r.states, ?_, ?_, setStates_states r, ?_⟩
  · rw [states, List.map_map]
    rfl
  · rw [List.map_map]
    exact r.nodup_states
  · simp [Server.readUpdates, Server.readBody, Http.Body.whole, hread, hflags]
  · simp [Toolbox.readUpdates, hwhole, Json.misfit?_statesJson, hflags]
  · intro r'
    constructor
    · intro hnames
      rw [states_setStates_states fun n hn => hnames ▸ hn, hnames, ← states_eq_map]
    · intro hperm
      rw [states_setStates_states fun n hn => hperm.mem_iff.mp hn, states_eq_map r]
      exact hperm.map _

/-- Two rules whose names are full of characters that have to be escaped, one of them written like the
escape of the other. -/
def quotedNames : Registry where
  entries := [⟨⟨"say \"<b>\" & \\\u2028\x00", "", fun _ => .ok []⟩, true⟩,
    ⟨⟨"say \\\"\\u003cb", "", fun _ => .ok []⟩, false⟩]
  name_ne_empty := by simp
  names_nodup := by decide

/-- A request for the flags. -/
def flagsRequest : Http.Request :=
  { method := "GET", target := .ofText "/api/v1/rules", headers := [], body := "" }

/-- The answer of a server that has these rules. -/
def quotedAnswer : Http.Response × Server :=
  Server.handle ⟨.ofParts 1700000000 0, "", ""⟩ flagsRequest { registry := quotedNames }

theorem carries_of_sends_quotedNames :
    quotedAnswer.1.body = "\x7b\"say \\\"\\u003cb\\u003e\\\" \\u0026 \\\\\\u2028\\u0000\":true," ++
        "\"say \\\\\\\"\\\\u003cb\":false\x7d\n" ∧
      Carries quotedAnswer.1.body quotedAnswer.2.registry :=
  ⟨by decide +kernel, carries_of_sends (.body (.inl (by decide +kernel)) (by decide +kernel))⟩

end Registry

end JavaReview
