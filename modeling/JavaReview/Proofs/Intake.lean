import JavaReview.Proofs.Command.Analyzing
import JavaReview.Proofs.Server.Steps

/-!
The ways by which reviews come into a store: requests, the command that reviews files, and the tool that
reviews a text. Requests and the command store what active waivers leave of the findings; the tool stores
all findings, so it stores a suppressed one whenever the engine finds one (`Intake.stores_unwaived_iff`).
-/

namespace JavaReview

/-- One use of a way by which reviews come into a store. -/
inductive Intake where
  | request (s : Server) (m : Server.Moment) (req : Http.Request)
  | command (e : Command.Surroundings) (args : List String) (l : Command.Line) (w : Workspace)
      (place : List String) (line_eq : Command.readLine args = .ok (.run l))
      (name_eq : l.name = .analyze)
  | tool (t : Toolbox) (store : Store) (now : Instant) (tool : Tool) (args : Toolbox.Arguments)

namespace Intake

/-- The present. -/
def now : Intake → Instant
  | request _ m _ => m.now
  | command e .. => e.now
  | tool _ _ now _ _ => now

/-- The store before. -/
def before : Intake → Store
  | request s _ _ => s.store
  | command _ _ _ w place _ _ => w.storeAt place
  | tool _ store _ _ _ => store

/-- The store after. -/
def after : Intake → Store
  | request s m req => (Server.handle m req s).2.store
  | command e args _ w place _ _ => (Command.run e args w).workspace.storeAt place
  | tool t store now used args =>
    (({ t with store := some store } : Toolbox).call now used args).2.store.getD store

/-- A review that the engine makes of a source text that was handed in to be stored. -/
def Reviews : Intake → Review → Prop
  | request s m req, r => ∃ source filename a, s.Submits req source filename ∧
      s.analyzer = some a ∧ (a.engine s.registry).analyze m.now false source (trimmed filename) = .ok r
  | command e _ l w _ _ _, r => Command.MakesReview e l w r
  | tool t _ now used args, r => used = .analyzeSource ∧ Toolbox.flagArgument args "save" = true ∧
      (t.analyzer.engine t.registry).analyze now false (Toolbox.textArgument args "code")
        (Toolbox.textArgument args "filename") = .ok r

/-- Exactly these findings are stored of the reviews that are stored. -/
def Stores (x : Intake) (left : Review → List Finding) : Prop :=
  x.before.Adds x.Reviews left x.after

end Intake

/-! ## Requests -/

theorem Server.review_eq_ok {s : Server} {now : Instant} {source filename : String} {r : Review}
    (h : s.review now source filename = .ok r) :
    ∃ a, s.analyzer = some a ∧
      (a.engine s.registry).analyze now false source (trimmed filename) = .ok r := by
  unfold Server.review at h
  split at h
  · cases h
  · split at h
    · cases h
    next a ha => exact ⟨a, ha, mapError_eq_ok_iff.mp h⟩

theorem Toolbox.review_eq_ok {t : Toolbox} {now : Instant} {args : Arguments} {r : Review}
    (h : t.review now args = .ok r) :
    (t.analyzer.engine t.registry).analyze now false (textArgument args "code")
      (textArgument args "filename") = .ok r := by
  unfold Toolbox.review at h
  simp only at h
  split at h
  · cases h
  · exact mapError_eq_ok_iff.mp h

theorem Store.Operation.isSave_of_isAccess {op : Operation} (h : op.isAccess = true) :
    op.isSave = false := by
  cases op <;> first | rfl | cases h

namespace Intake

theorem stores_request (s : Server) (m : Server.Moment) (req : Http.Request)
    (hs : s.store.Reachable) : (request s m req).Stores (s.store.unwaived m.now) := by
  obtain ⟨log, hlog⟩ := hs.exists_holds
  show s.store.Adds (request s m req).Reviews _ (Server.handle m req s).2.store
  have hstep := Server.handle_step m req s
  generalize (Server.handle m req s).2 = s' at hstep
  cases hstep with
  | access ops hops => exact .of_reviews_eq (s.store.sameContent_access hops).reviews_eq
  | allowance => exact .of_reviews_eq rfl
  | waivers ops hadmin hops => exact .of_reviews_eq (s.store.sameContent_performAll hops).reviews_eq
  | rules us before after hreach hadmin hread hbefore hafter =>
    refine .of_reviews_eq (s.store.reviews_performAll fun op hop => ?_)
    rcases Store.Operation.isAccess_or_eq hbefore hafter hop with hop | rfl
    · exact Store.Operation.isSave_of_isAccess hop
    · rfl
  | review source filename r allowance hsubmits hreview =>
    have hmade : (request s m req).Reviews r := by
      obtain ⟨a, ha, hanalyze⟩ := Server.review_eq_ok hreview
      exact ⟨source, filename, a, hsubmits, ha, hanalyze⟩
    cases hopen : s.store.isOpen with
    | false => exact .of_reviews_eq (congrArg _ (Store.perform_save_of_closed hopen m.now _))
    | true =>
      obtain ⟨ws, hws⟩ := Store.listWaivers_of_open hopen m.now
      have hactive : s.activeWaivers m.now = ws := by
        rw [Server.activeWaivers, hws]
        rfl
      rw [hactive]
      have hstored : ∀ stored ∈ [r.applyWaivers ws],
          Store.StoredFor (request s m req).Reviews (s.store.unwaived m.now) stored := by
        intro stored hmem
        rw [List.mem_singleton.mp hmem]
        exact Store.storedFor_applyWaivers hws hmade
      exact hlog.adds_saves m.now hstored

/-! ## Commands -/

theorem stores_command (e : Command.Surroundings) (args : List String) (l : Command.Line)
    (w : Workspace) (place : List String) (hline : Command.readLine args = .ok (.run l))
    (hname : l.name = .analyze) (hs : (w.storeAt place).Reachable) :
    (command e args l w place hline hname).Stores ((w.storeAt place).unwaived e.now) := by
  obtain ⟨log, hlog⟩ := hs.exists_holds
  exact Command.adds_run hline hname hlog

/-! ## Tools -/

/-- A call of a tool stores nothing or a review with all its findings. -/
theorem tool_cases (t : Toolbox) (store : Store) (now : Instant) (used : Tool)
    (args : Toolbox.Arguments) :
    (tool t store now used args).after.reviews = store.reviews ∨
      ∃ r, (tool t store now used args).Reviews r ∧
        (tool t store now used args).after = store.withReview now r := by
  have hafter : (tool t store now used args).after =
      (({ t with store := some store } : Toolbox).call now used args).2.store.getD store := rfl
  have hstep := Toolbox.call_step now args used
    (rfl : ({ t with store := some store } : Toolbox).store = some store)
  rw [hafter]
  generalize (({ t with store := some store } : Toolbox).call now used args).2 = t' at hstep
  cases hstep with
  | nothing => exact .inl rfl
  | review r hused hflag hreview =>
    have hmade : (tool t store now used args).Reviews r :=
      ⟨hused, hflag, Toolbox.review_eq_ok hreview⟩
    have hchanges := Store.changes_perform store (.save now r)
    simp only [Option.getD_some]
    generalize store.perform (.save now r) = store' at hchanges
    cases hchanges with
    | nothing => exact .inl rfl
    | review => exact .inr ⟨r, hmade, rfl⟩
  | rules us => exact .inl ((Store.changes_perform store (.saveStates _)).reviews_eq rfl)

section Tools

variable {t : Toolbox} {store : Store} {now : Instant} {used : Tool} {args : Toolbox.Arguments}

theorem stores_tool (hs : store.Reachable) :
    (tool t store now used args).Stores Review.findings := by
  obtain ⟨log, hlog⟩ := hs.exists_holds
  rcases tool_cases t store now used args with h | ⟨r, hmade, h⟩
  · exact .of_reviews_eq h
  · rw [Stores, h]
    refine hlog.adds (hlog.withReview now r) fun x hx => ?_
    rw [List.mem_singleton.mp hx]
    exact ⟨r, hmade, rfl, rfl, _, rfl⟩

/-- Of a source text the tool makes one review. -/
theorem eq_of_reviews_tool {r r' : Review} (h : (tool t store now used args).Reviews r)
    (h' : (tool t store now used args).Reviews r') : r = r' :=
  Except.ok.inj (h.2.2.symm.trans h'.2.2)

/-- The tool heeds waivers exactly if there is nothing for them to suppress. -/
theorem stores_unwaived_tool_iff (hs : store.Reachable) :
    (tool t store now used args).Stores (store.unwaived now) ↔
      (tool t store now used args).after.reviews = store.reviews ∨
        ∀ r, (tool t store now used args).Reviews r →
          ∀ f ∈ r.findings, ¬ store.Suppresses now r.filename f := by
  have hunwaived (r : Review) : (store.unwaived now r).length = r.findings.length ↔
      ∀ f ∈ r.findings, ¬ store.Suppresses now r.filename f := by
    simp [Store.unwaived, List.length_filter_eq_length_iff]
  constructor
  · intro hstores
    rcases tool_cases t store now used args with h | ⟨r, hmade, h⟩
    · exact .inl h
    · right
      intro r' hmade'
      obtain rfl := eq_of_reviews_tool hmade hmade'
      obtain ⟨log, hlog⟩ := hs.exists_holds
      have hrow : store.nextRow now r ∈
          (tool t store now used args).after.reviews.drop store.reviews.length := by
        simp [h, Store.withReview]
      obtain ⟨r', hmade', -, -, ⟨first, hfindings⟩, -⟩ := hstores.new_rows _ hrow
      obtain rfl := eq_of_reviews_tool hmade hmade'
      -- What is stored of the review is all of its findings, so none of them is left out.
      have hstored : (tool t store now used args).after.findingsOf (store.nextRow now r).id =
          store.nextFindings r := by
        rw [h]
        exact (hlog.withReview now r).findingsOf_eq
          (List.mem_append_right log (List.mem_singleton.mpr rfl))
      rw [hstored] at hfindings
      have hlength := congrArg List.length hfindings
      rw [Store.nextFindings, Store.length_withIds, Store.length_withIds] at hlength
      exact (hunwaived r).mp hlength.symm
  · rintro (h | h)
    · exact .of_reviews_eq h
    · refine (stores_tool hs).congr fun r hmade => ?_
      exact (List.filter_eq_self.mpr fun f hf => by simpa using h r hmade f hf).symm

end Tools

/-! ## All ways -/

/-- Whether waivers are heeded on this way. -/
def heedsWaivers : Intake → Bool
  | tool .. => false
  | request .. | command .. => true

/-- The findings of a review that are stored on this way. -/
def left (x : Intake) (r : Review) : List Finding :=
  if x.heedsWaivers then x.before.unwaived x.now r else r.findings

/-- What is stored on each way, and when that is what active waivers leave: always on the ways that heed
them, and on the other one only if nothing is stored or nothing is suppressed. -/
theorem stores_unwaived_iff (x : Intake) (hx : x.before.Reachable) :
    x.Stores x.left ∧
      (x.Stores (x.before.unwaived x.now) ↔
        x.heedsWaivers = true ∨ x.after.reviews = x.before.reviews ∨
          ∀ r, x.Reviews r → ∀ f ∈ r.findings, ¬ x.before.Suppresses x.now r.filename f) := by
  cases x with
  | request s m req =>
    have hstores := stores_request s m req hx
    exact ⟨hstores, iff_of_true hstores (.inl rfl)⟩
  | command e args l w place hline hname =>
    have hstores := stores_command e args l w place hline hname hx
    exact ⟨hstores, iff_of_true hstores (.inl rfl)⟩
  | tool t store now used args =>
    refine ⟨stores_tool hx, (stores_unwaived_tool_iff hx).trans ?_⟩
    exact (or_iff_right (by simp [heedsWaivers])).symm

/-- A store with an active waiver for comments that are marked as to be done. -/
def waivingStore : Store := Store.empty.performAll
  [.addWaiver (.ofParts 1700000000 0) "todo-comment" "" "" "accepted" "ada" (.ofParts 32503680000 0)]

theorem reachable_waivingStore : waivingStore.Reachable := ⟨_, rfl⟩

/-- A request to review a text with such a comment. -/
def waivedRequest : Intake := .request { store := waivingStore } ⟨.ofParts 1700000000 0, "", ""⟩ {
  method := "POST"
  target := .ofText "/api/v1/analyze"
  headers := []
  body := "\x7b\"code\":\"// TODO x\"\x7d" }

theorem stores_unwaived_iff_waivedRequest :
    waivedRequest.after.reviews.map (·.counts.total) = [0] ∧
      waivedRequest.Stores waivedRequest.left ∧
      (waivedRequest.Stores (waivedRequest.before.unwaived waivedRequest.now) ↔
        waivedRequest.heedsWaivers = true ∨
          waivedRequest.after.reviews = waivedRequest.before.reviews ∨
          ∀ r, waivedRequest.Reviews r →
            ∀ f ∈ r.findings, ¬ waivedRequest.before.Suppresses waivedRequest.now r.filename f) :=
  ⟨by decide +kernel, stores_unwaived_iff waivedRequest reachable_waivingStore⟩

/-- The arguments to review the same text with the tool and to store the review. -/
def waivedArguments : Toolbox.Arguments := [("code", .str "// TODO x"), ("save", .bool true)]

/-- The call of the tool with these arguments. -/
def waivedCall : Intake :=
  .tool {} waivingStore (.ofParts 1700000000 0) .analyzeSource waivedArguments

/-- The tool stores the finding that the waiver suppresses. -/
theorem not_stores_unwaived_waivedCall :
    ¬ waivedCall.Stores (waivedCall.before.unwaived waivedCall.now) := by
  have hcounts : waivedCall.after.reviews.map (·.counts.total) = [1] := by decide +kernel
  have hfound : ((Toolbox.review {} waivedCall.now waivedArguments).map fun r =>
      r.findings.countP fun f => waivingStore.Suppresses waivedCall.now r.filename f).toOption =
        some 1 := by
    decide +kernel
  intro hstores
  rcases (stores_unwaived_tool_iff reachable_waivingStore).mp hstores with h | h
  · rw [waivedCall, h] at hcounts
    cases hcounts
  · cases hreview : Toolbox.review {} waivedCall.now waivedArguments with
    | error e =>
      rw [hreview] at hfound
      cases hfound
    | ok r =>
      have hnone : ∀ f ∈ r.findings, ¬ waivingStore.Suppresses waivedCall.now r.filename f :=
        h r ⟨rfl, rfl, Toolbox.review_eq_ok hreview⟩
      have hzero : (r.findings.countP fun f =>
          waivingStore.Suppresses waivedCall.now r.filename f) = 0 :=
        List.countP_eq_zero.mpr fun f hf => by simpa using hnone f hf
      rw [hreview] at hfound
      exact absurd (hzero.symm.trans (Option.some.inj hfound)) (by decide)

end Intake

end JavaReview
