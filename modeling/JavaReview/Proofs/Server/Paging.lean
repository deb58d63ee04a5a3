import JavaReview.Proofs.Http.Query
import JavaReview.Proofs.Server.Sessions
import JavaReview.Proofs.Text.Decimal

/-!
Reading the list of reviews page by page. A client asks for the pages one after the other, and between
its requests the store goes on working (`Server.Paging`). The pages count from the newest review, so each
review that is saved pushes the others towards later pages: what the client has not seen yet stays ahead
of it (`Server.Paging.mem_page_of_place_lt`), and what it has seen it may see again. Main statement: up to
an empty page no review of the start is skipped, and without new reviews each is shown once
(`Server.Paging.receivesAll`).
-/

namespace JavaReview

open Http (Request Response Headers)

namespace Store

theorem Changes.reviews_prefix {s s' : Store} {op : Operation} (h : Changes s op s') :
    s.reviews <+: s'.reviews := by
  cases h with
  | review => exact List.prefix_append _ _
  | nothing | flags | user | session | sessionEnd | waiver | revocation | note | closing
  | reopening => exact List.prefix_rfl

theorem reviews_prefix_performAll (s : Store) (ops : List Operation) :
    s.reviews <+: (s.performAll ops).reviews := by
  refine performAll_induction (P := fun t => s.reviews <+: t.reviews) ?_ List.prefix_rfl
  intro op _ t t' hc h
  exact h.trans hc.reviews_prefix

end Store

namespace Server

open Store (Operation ReviewEntry entryOf)

/-! ## Requests for a page -/

/-- Asks for a page of reviews. -/
def pageRequest (headers : Headers) (limit offset : Nat) : Request where
  method := "GET"
  target := .ofText ("/api/v1/reviews?limit=" ++ decimal limit ++ "&offset=" ++ decimal offset)
  headers
  body := ""

/-- Where the page of an offset starts: one that does not fit into a word counts as none. -/
def pageStart (offset : Nat) : Nat := if fitsWord offset then offset else 0

/-- A page of the reviews, counted from the newest. -/
def pageOf (store : Store) (limit start : Nat) : List ReviewEntry :=
  ((store.reviews.reverse.drop start).take limit).map entryOf

/-- The text of a page of reviews. -/
def pageText (limit offset : Int) (es : List ReviewEntry) : String :=
  (Json.obj [("items", .arr (es.map (·.toJson))), ("limit", .int limit),
    ("offset", .int offset)]).compact ++ "\n"

theorem fitsWord_natCast_iff {n : Nat} : fitsWord n = true ↔ n < 0x8000000000000000 := by
  rw [fitsWord, Bool.and_eq_true, decide_eq_true_eq, decide_eq_true_eq, leastWord]
  omega

theorem plain_decimalChars (n : Nat) : Text.Plain (decimalChars n) := by
  intro c hc
  rw [decimalChars, if_neg (by omega)] at hc
  have hdigit := Nat.isDigit_of_mem_toDigits (by decide) (by decide) hc
  rw [Char.isAlphanum, hdigit, Bool.or_true]

section Reading

variable (headers : Headers) (limit offset : Nat)

theorem toList_pageTarget :
    ("/api/v1/reviews?limit=" ++ decimal limit ++ "&offset=" ++ decimal offset).toList =
      "/api/v1/reviews".toList ++ '?' :: Text.joinWith ['&'] ([("limit".toList, decimalChars limit),
        ("offset".toList, decimalChars offset)].map Http.writtenPair) := by
  simp [decimal, Text.joinWith, Http.writtenPair]

theorem rawPath_pageRequest :
    (pageRequest headers limit offset).target.rawPath = "/api/v1/reviews".toList := by
  rw [pageRequest, Http.Target.ofText, toList_pageTarget,
    Text.takeWhile_ne_append_cons (by decide)]
  have hpath : Http.Target.pathPart "/api/v1/reviews".toList = "/api/v1/reviews".toList := by decide
  exact hpath

theorem query_pageRequest : (pageRequest headers limit offset).target.query =
    ⟨[("limit", decimal limit), ("offset", decimal offset)], none⟩ := by
  rw [pageRequest, Http.Target.ofText, Http.Target.query, toList_pageTarget,
    Text.dropWhile_ne_append_cons (by decide), List.drop_one, List.tail_cons,
    Http.Query.ofText_written (by simp)]
  · simp [decimal]
  · intro pair hpair
    rcases List.mem_pair.mp hpair with rfl | rfl
    · exact ⟨(by decide : Text.Plain "limit".toList), plain_decimalChars limit⟩
    · exact ⟨(by decide : Text.Plain "offset".toList), plain_decimalChars offset⟩

theorem reaches_pageRequest : Reaches (pageRequest headers limit offset) .listReviews := by
  have hraw := rawPath_pageRequest headers limit offset
  have hescaped : (pageRequest headers limit offset).target.escapedPath = "/api/v1/reviews".toList := by
    rw [Http.Target.escapedPath, hraw]
    decide
  have hrouted : routedPath (pageRequest headers limit offset) = "/api/v1/reviews".toList := by
    rw [routedPath, hescaped]
    have hclean : Http.Target.cleanPath "/api/v1/reviews".toList = "/api/v1/reviews".toList := by
      decide
    exact hclean
  refine ⟨by rw [hraw]; decide, hrouted.trans hescaped.symm, (by decide : "GET" ≠ "OPTIONS"), ?_⟩
  rw [routeOf, hrouted]
  have hroute : Route.ofPath "GET" (Http.Target.segments "/api/v1/reviews".toList) = .listReviews := by
    decide
  exact hroute

theorem pageLimit_pageRequest (hpos : 1 ≤ limit) (hle : limit ≤ 500) :
    pageLimit (pageRequest headers limit offset).target.query = limit := by
  have hfits : fitsWord (limit : Int) = true := fitsWord_natCast_iff.mpr (by omega)
  have hread : queryNumber (pageRequest headers limit offset).target.query "limit" 50 = limit := by
    rw [query_pageRequest, queryNumber]
    simp [Http.Query.get, decimal, readDecimal?_decimalChars, hfits]
  rw [pageLimit, hread]
  omega

theorem pageOffset_pageRequest :
    pageOffset (pageRequest headers limit offset).target.query = pageStart offset := by
  have hget : (⟨[("limit", decimal limit), ("offset", decimal offset)], none⟩ : Http.Query).get
      "offset" = decimal offset := by
    simp [Http.Query.get, List.lookup_cons]
  rw [pageOffset, query_pageRequest, queryNumber, hget, decimal, String.toList_ofList,
    readDecimal?_decimalChars, pageStart]
  cases fitsWord offset with
  | true => simp
  | false => rfl

/-- A page that is asked for is shown, and showing it changes nothing. -/
theorem handle_pageRequest (m : Moment) (s : Server) (hopen : s.store.isOpen = true)
    (hpos : 1 ≤ limit) (hle : limit ≤ 500) :
    (handle m (pageRequest headers limit offset) s).2 = s ∧
    (handle m (pageRequest headers limit offset) s).1.status = 200 ∧
    (handle m (pageRequest headers limit offset) s).1.body =
      pageText limit (pageStart offset) (pageOf s.store limit (pageStart offset)) := by
  have hreach := reaches_pageRequest headers limit offset
  have hlist : s.store.list limit (pageStart offset) =
      .ok (pageOf s.store limit (pageStart offset)) := by
    rw [Store.list, Store.whenOpen, if_pos hopen, if_neg (by omega), Int.toNat_natCast,
      Int.toNat_natCast, pageOf]
  rcases handle_cases m (pageRequest headers limit offset) s with ⟨route, more, hroute, h⟩ | h
  · obtain rfl : route = .listReviews := hroute.route_eq.symm.trans hreach.route_eq
    rw [h, handler, listReviews, pageLimit_pageRequest headers limit offset hpos hle,
      pageOffset_pageRequest, hlist]
    exact ⟨rfl, rfl, rfl⟩
  · exact absurd hreach (h.2 _)

end Reading

/-! ## A client and the work of others -/

/-- A client that reads the list of reviews page by page, and the work of others meanwhile. -/
structure Paging where
  /-- The server at the first request. -/
  start : Server
  limit : Nat
  headers : Headers
  /-- The moments of the requests. -/
  moment : Nat → Moment
  /-- What is done to the store between a request and the next one. -/
  meanwhile : Nat → List Operation

namespace Paging

variable (p : Paging)

/-- The request for a page. -/
def request (k : Nat) : Request := pageRequest p.headers p.limit (k * p.limit)

/-- The server when a page is asked for. -/
def server : Nat → Server
  | 0 => p.start
  | k + 1 => (handle (p.moment k) (p.request k) (server k)).2.performing (p.meanwhile k)

/-- The answer to a request. -/
def answer (k : Nat) : Response := (handle (p.moment k) (p.request k) (p.server k)).1

/-- The place at which a page starts. -/
def offset (k : Nat) : Nat := pageStart (k * p.limit)

/-- The page that the server lists. -/
def page (k : Nat) : List ReviewEntry := pageOf (p.server k).store p.limit (p.offset k)

/-- What a client gets that reads up to an empty page. -/
structure ReceivesAll : Prop where
  /-- Each answer shows its page. -/
  answers : ∀ k, (p.answer k).status = 200 ∧
    (p.answer k).body = pageText p.limit (p.offset k) (p.page k)
  /-- Before an empty page comes, every review that was stored at the first request is shown. -/
  no_skip : ∀ n, p.page n = [] → ∀ row ∈ p.start.store.reviews, ∃ k < n, entryOf row ∈ p.page k
  /-- An empty page comes if the number of reviews stays below a bound. -/
  ends : ∀ most : Nat, (∀ k, (p.server k).store.reviews.length ≤ most) →
    fitsWord (most + p.limit) = true → ∃ n, n * p.limit < most + p.limit ∧ p.page n = []
  /-- If no review is saved meanwhile, the pages up to the first empty one are all reviews from the
  newest to the oldest. -/
  exactly_once : (∀ k, ∀ op ∈ p.meanwhile k, op.isSave = false) →
    fitsWord (p.start.store.reviews.length + p.limit) = true →
    ∃ n, p.page n = [] ∧ (∀ k < n, p.page k ≠ []) ∧
      (List.range n).flatMap p.page = p.start.store.reviews.reverse.map entryOf ∧
      ((List.range n).flatMap p.page).Pairwise fun a b => b.id < a.id

end Paging

/-! ## Pages as windows -/

theorem fitsWord_of_le {m n : Nat} (hmn : m ≤ n) (h : fitsWord n = true) : fitsWord m = true :=
  fitsWord_natCast_iff.mpr (Nat.lt_of_le_of_lt hmn (fitsWord_natCast_iff.mp h))

theorem pageStart_of_fits {offset : Nat} (h : fitsWord offset = true) : pageStart offset = offset :=
  if_pos h

theorem pageOf_eq_nil_iff {store : Store} {limit start : Nat} (hpos : 1 ≤ limit) :
    pageOf store limit start = [] ↔ store.reviews.length ≤ start := by
  rw [pageOf, List.map_eq_nil_iff, List.take_eq_nil_iff, List.drop_eq_nil_iff, List.length_reverse]
  omega

/-- A review is on a page if its place, counted from the newest, is within the page. -/
theorem mem_pageOf {store : Store} {limit start i : Nat} {row : ReviewRow}
    (hrow : store.reviews[i]? = some row) (hfrom : start + i < store.reviews.length)
    (hto : store.reviews.length ≤ start + limit + i) : entryOf row ∈ pageOf store limit start := by
  refine List.mem_map.mpr ⟨row, ?_, rfl⟩
  have hplace : store.reviews.length - 1 - (start + (store.reviews.length - 1 - i - start)) = i := by
    omega
  refine List.mem_of_getElem? (i := store.reviews.length - 1 - i - start) ?_
  rw [List.getElem?_take_of_lt (by omega), List.getElem?_drop, List.getElem?_reverse (by omega),
    hplace, hrow]

/-- Windows of one size, one after the other, are the start of a list. -/
theorem flatMap_windows {α : Type} (l : List α) (limit n : Nat) :
    (List.range n).flatMap (fun k => (l.drop (k * limit)).take limit) = l.take (n * limit) := by
  induction n with
  | zero => simp
  | succ n ih =>
    rw [List.range_succ, List.flatMap_append, ih, List.flatMap_singleton, Nat.succ_mul, List.take_add]

namespace Paging

/-- A request changes nothing, so only the work of others is between two of them. -/
theorem server_succ {p : Paging} {k : Nat} (hopen : (p.server k).store.isOpen = true)
    (hpos : 1 ≤ p.limit) (hle : p.limit ≤ 500) :
    p.server (k + 1) = (p.server k).performing (p.meanwhile k) := by
  rw [server, request, (handle_pageRequest _ _ _ _ _ hopen hpos hle).1]

section Run

variable {p : Paging} (hopen : ∀ k, (p.server k).store.isOpen = true) (hpos : 1 ≤ p.limit)
  (hle : p.limit ≤ 500)

include hopen hpos hle

theorem reviews_prefix_succ (k : Nat) :
    (p.server k).store.reviews <+: (p.server (k + 1)).store.reviews := by
  rw [server_succ (hopen k) hpos hle]
  exact Store.reviews_prefix_performAll _ _

theorem reviews_of_start (k : Nat) : p.start.store.reviews <+: (p.server k).store.reviews := by
  induction k with
  | zero => exact List.prefix_rfl
  | succ k ih => exact ih.trans (reviews_prefix_succ hopen hpos hle k)

/-- The step of the argument, taken along the requests: the place of a review only grows, so a review
that a page has left behind was still ahead at an earlier page and hence on one of them. -/
theorem mem_page_of_place_lt {i n : Nat} {row : ReviewRow} (hrow : p.start.store.reviews[i]? = some row)
    (hfits : fitsWord (n * p.limit : Nat) = true)
    (hplace : (p.server n).store.reviews.length ≤ n * p.limit + i) :
    ∃ k < n, entryOf row ∈ p.page k := by
  induction n with
  | zero =>
    have hi := (List.getElem?_eq_some_iff.mp hrow).1
    rw [Nat.zero_mul, Nat.zero_add] at hplace
    exact absurd hi (Nat.not_lt.mpr hplace)
  | succ n ih =>
    have hfits' : fitsWord (n * p.limit : Nat) = true :=
      fitsWord_of_le (Nat.mul_le_mul_right _ n.le_succ) hfits
    by_cases hbehind : (p.server n).store.reviews.length ≤ n * p.limit + i
    · obtain ⟨k, hk, hmem⟩ := ih hfits' hbehind
      exact ⟨k, Nat.lt_succ_of_lt hk, hmem⟩
    · refine ⟨n, n.lt_succ_self, ?_⟩
      have hgrown := (reviews_prefix_succ hopen hpos hle n).length_le
      rw [Nat.succ_mul] at hplace
      have hrow' : (p.server n).store.reviews[i]? = some row := by
        obtain ⟨hi, rfl⟩ := List.getElem?_eq_some_iff.mp hrow
        rw [(reviews_of_start hopen hpos hle n).getElem hi]
        exact List.getElem?_eq_getElem _
      rw [page, offset, pageStart_of_fits hfits']
      exact mem_pageOf hrow' (by omega) (by omega)

theorem answer_eq (k : Nat) : (p.answer k).status = 200 ∧
    (p.answer k).body = pageText p.limit (p.offset k) (p.page k) := by
  rw [answer, request, offset, page, offset]
  exact (handle_pageRequest p.headers p.limit (k * p.limit) _ _ (hopen k) hpos hle).2

theorem mem_page_of_empty {n : Nat} (hempty : p.page n = []) {row : ReviewRow}
    (hrow : row ∈ p.start.store.reviews) : ∃ k < n, entryOf row ∈ p.page k := by
  rw [page, offset, pageOf_eq_nil_iff hpos] at hempty
  obtain ⟨i, hi⟩ := List.getElem?_of_mem hrow
  cases hfits : fitsWord (n * p.limit : Nat) with
  | true =>
    rw [pageStart_of_fits hfits] at hempty
    exact mem_page_of_place_lt hopen hpos hle hi hfits (Nat.le_add_right_of_le hempty)
  | false =>
    -- The page starts at the newest review, so there is none.
    have hstart := (reviews_of_start hopen hpos hle n).length_le
    have hlt := (List.getElem?_eq_some_iff.mp hi).1
    simp only [pageStart, hfits, Bool.false_eq_true, if_false] at hempty
    omega

theorem reviews_eq_of_no_save (hnone : ∀ k, ∀ op ∈ p.meanwhile k, op.isSave = false) (k : Nat) :
    (p.server k).store.reviews = p.start.store.reviews := by
  induction k with
  | zero => rfl
  | succ k ih =>
    rw [server_succ (hopen k) hpos hle, performing, Store.reviews_performAll _ (hnone k)]
    exact ih

end Run

/-! ## How many pages there are -/

/-- The number of pages of a size that hold a number of reviews. -/
def pagesFor (limit count : Nat) : Nat := (count + limit - 1) / limit

theorem lt_pagesFor_iff {limit count k : Nat} (hpos : 1 ≤ limit) :
    k < pagesFor limit count ↔ k * limit < count := by
  rw [pagesFor, Nat.lt_iff_add_one_le, Nat.le_div_iff_mul_le hpos, Nat.add_mul, Nat.one_mul]
  omega

theorem le_pagesFor_mul {limit count : Nat} (hpos : 1 ≤ limit) :
    count ≤ pagesFor limit count * limit :=
  Nat.not_lt.mp fun h => Nat.lt_irrefl _ ((lt_pagesFor_iff hpos).mpr h)

theorem pagesFor_mul_lt {limit count : Nat} (hpos : 1 ≤ limit) :
    pagesFor limit count * limit < count + limit := by
  have := Nat.div_mul_le_self (count + limit - 1) limit
  rw [pagesFor]
  omega

theorem fitsWord_mul_of_le_pagesFor {limit count k : Nat} (hpos : 1 ≤ limit)
    (hfits : fitsWord (count + limit : Nat) = true) (hk : k ≤ pagesFor limit count) :
    fitsWord (k * limit : Nat) = true :=
  fitsWord_of_le ((Nat.mul_le_mul_right limit hk).trans (pagesFor_mul_lt hpos).le) hfits

theorem page_pagesFor {p : Paging} {count : Nat} (hpos : 1 ≤ p.limit)
    (hfits : fitsWord (count + p.limit : Nat) = true)
    (hcount : (p.server (pagesFor p.limit count)).store.reviews.length ≤ count) :
    p.page (pagesFor p.limit count) = [] := by
  rw [page, offset, pageOf_eq_nil_iff hpos,
    pageStart_of_fits (fitsWord_mul_of_le_pagesFor hpos hfits le_rfl)]
  exact hcount.trans (le_pagesFor_mul hpos)

/-- The pages of a store that does not change, up to the first one that is empty. -/
theorem flatMap_page {p : Paging} {rows : List ReviewRow} (hpos : 1 ≤ p.limit)
    (hfits : fitsWord (rows.length + p.limit : Nat) = true)
    (hrows : ∀ k, (p.server k).store.reviews = rows) :
    (List.range (pagesFor p.limit rows.length)).flatMap p.page = rows.reverse.map entryOf := by
  have hpage (k : Nat) (hk : k ∈ List.range (pagesFor p.limit rows.length)) :
      p.page k = ((rows.reverse.drop (k * p.limit)).take p.limit).map entryOf := by
    have hk' := fitsWord_mul_of_le_pagesFor hpos hfits (List.mem_range.mp hk).le
    rw [page, offset, pageStart_of_fits hk', pageOf, hrows]
  rw [List.flatMap_congr hpage, ← List.map_flatMap, flatMap_windows, List.take_of_length_le]
  rw [List.length_reverse]
  exact le_pagesFor_mul hpos

/-- **Paging.** A client that asks an open server for the pages of reviews of one size, one after the
other and whatever is done to the store between its requests, gets every review that was stored at its
first request before it gets an empty page; if no review is saved meanwhile, it gets each of them once,
from the newest to the oldest. -/
theorem receivesAll (p : Paging) (hstart : p.start.store.Reachable)
    (hopen : ∀ k, (p.server k).store.isOpen = true) (hpos : 1 ≤ p.limit) (hle : p.limit ≤ 500) :
    p.ReceivesAll where
  answers := answer_eq hopen hpos hle
  no_skip _ hempty _ hrow := mem_page_of_empty hopen hpos hle hempty hrow
  ends most hmost hfits :=
    ⟨pagesFor p.limit most, pagesFor_mul_lt hpos, page_pagesFor hpos hfits (hmost _)⟩
  exactly_once hnone hfits := by
    have hrows := reviews_eq_of_no_save hopen hpos hle hnone
    have hall := flatMap_page hpos hfits hrows
    refine ⟨pagesFor p.limit p.start.store.reviews.length,
      page_pagesFor hpos hfits (congrArg List.length (hrows _)).le, ?_, hall, ?_⟩
    · intro k hk hempty
      rw [page, offset, pageOf_eq_nil_iff hpos, hrows,
        pageStart_of_fits (fitsWord_mul_of_le_pagesFor hpos hfits hk.le)] at hempty
      exact Nat.not_lt.mpr hempty ((lt_pagesFor_iff hpos).mp hk)
    · obtain ⟨log, hlog⟩ := hstart.exists_holds
      rw [hall, List.pairwise_map, List.pairwise_reverse]
      exact hlog.review_ids.pairwise_lt

/-- A client that asks for two reviews at a time while a fourth one is saved after its first request. -/
def busyPaging : Paging where
  start := { store := Store.empty.performAll (List.replicate 3 (.save (.ofParts 1700000000 0) {})) }
  limit := 2
  headers := []
  moment _ := ⟨.ofParts 1700000000 0, "", ""⟩
  meanwhile k := if k = 0 then [.save (.ofParts 1700000000 0) {}] else []

theorem isOpen_busyPaging (k : Nat) : (busyPaging.server k).store.isOpen = true := by
  induction k with
  | zero => rfl
  | succ k ih =>
    rw [server_succ ih (by decide) (by decide)]
    cases k with
    | zero => decide
    | succ k =>
      have hidle : busyPaging.meanwhile (k + 1) = [] := rfl
      rw [performing, hidle, Store.performAll_nil]
      exact ih

/-- Review 2 is shown twice and none is left out. -/
theorem receivesAll_busyPaging : busyPaging.ReceivesAll ∧ busyPaging.page 2 = [] ∧
    (List.range 2).map (fun k => (busyPaging.page k).map (·.id)) = [[3, 2], [2, 1]] :=
  ⟨receivesAll busyPaging ⟨_, rfl⟩ isOpen_busyPaging (by decide) (by decide), by decide, by decide⟩

end Paging

end Server

end JavaReview
