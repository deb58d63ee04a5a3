import JavaReview.Proofs.Json.RoundTrip
import JavaReview.Proofs.Server.Steps
import JavaReview.Proofs.Text.Bytes
import Mathlib.Tactic.IntervalCases

/-!
How much of a request is read. The body of a request for an analysis is read up to twice the size of the
largest source text and some framing, computed with 64 bits (`Server.recordBody`). A record that is cut
short cannot be read, wherever the cut falls (`Json.readFirst_takeBytes_record`), so a source text of a
size that is allowed is refused exactly if its record is larger than that
(`Server.status_eq_tooLarge_iff`). An escape takes six bytes for one, and the limit may wrap around: main
statement, no such text is refused exactly if the largest size is at most 16381
(`Server.refusesNone_iff`).
-/

namespace JavaReview

namespace Text

/-! ## Bytes -/

/-- A cut falls into the first of two texts or behind it. -/
theorem takeBytes_append (n : Nat) (s t : List Char) : takeBytes n (s ++ t) =
    if byteLength s ≤ n then s ++ takeBytes (n - byteLength s) t else takeBytes n s := by
  induction s generalizing n with
  | nil => simp
  | cons c s ih =>
    rw [List.cons_append, takeBytes, takeBytes, byteLength_cons]
    by_cases hc : byteWidth c ≤ n
    · rw [if_pos hc, if_pos hc, ih]
      by_cases hs : byteLength s ≤ n - byteWidth c
      · rw [if_pos hs, if_pos (by omega), Nat.sub_sub, List.cons_append]
      · rw [if_neg hs, if_neg (by omega)]
    · rw [if_neg hc, if_neg hc, if_neg (by omega)]

theorem takeBytes_byteLength (s : List Char) : takeBytes (byteLength s) s = s := by
  have h := takeBytes_append (byteLength s) s []
  rwa [List.append_nil, if_pos (Nat.le_refl _), takeBytes, List.append_nil] at h

/-- A text of one byte for each character. -/
theorem takeBytes_of_narrow {s : List Char} (h : ∀ c ∈ s, byteWidth c = 1) (n : Nat) :
    takeBytes n s = s.take n ∧ byteLength s = s.length := by
  induction s generalizing n with
  | nil => simp [takeBytes]
  | cons c s ih =>
    obtain ⟨hc, hs⟩ := List.forall_mem_cons.mp h
    refine ⟨?_, by simp [hc, (ih hs 0).2, Nat.add_comm]⟩
    cases n with
    | zero => simp [takeBytes, hc]
    | succ n => simp [takeBytes, hc, (ih hs n).1]

end Text

namespace Json

open Text

/-! ## Records that are cut short -/

theorem readUnits_replicate_replacement (n : Nat) :
    readUnits (List.replicate n replacement) = .error .ended := by
  induction n with
  | zero => rfl
  | succ n ih =>
    rw [List.replicate_succ, readUnits_plain (by decide) (by decide) (by decide), ih]
    rfl

theorem byteWidth_of_shortEscape? {e : Char} {n : Nat} (h : shortEscape? e = some n) :
    byteWidth e = 1 := by
  unfold shortEscape? at h
  split at h <;> first | rfl | cases h

theorem narrow_unicodeEscape (n : Nat) : ∀ c ∈ unicodeEscape n, byteWidth c = 1 := by
  have hdigit (m : Nat) : byteWidth (Nat.digitChar (m % 16)) = 1 := by
    have hall : ∀ d : Fin 16, byteWidth (Nat.digitChar d) = 1 := by decide
    exact hall ⟨m % 16, Nat.mod_lt m (by decide)⟩
  simp [unicodeEscape, Text.hexDigits, hdigit]
  decide

/-- A character that is cut through leaves the text open. -/
theorem WrittenAs.readUnits_takeBytes {c : Char} {s : List Char} (h : WrittenAs c s) {n : Nat}
    (hn : n < byteLength s) : readUnits (takeBytes n s) = .error .ended := by
  cases h with
  | short h =>
    have hnarrow := List.forall_mem_cons (p := (byteWidth · = 1)).mpr ⟨(rfl : byteWidth '\\' = 1),
      List.forall_mem_singleton.mpr (byteWidth_of_shortEscape? h)⟩
    obtain ⟨htake, hlength⟩ := takeBytes_of_narrow hnarrow n
    rw [hlength] at hn
    rw [htake]
    simp only [List.length_cons, List.length_nil] at hn
    interval_cases n <;> rfl
  | unicode h =>
    obtain ⟨htake, hlength⟩ := takeBytes_of_narrow (narrow_unicodeEscape c.toNat) n
    have hhex (m : Nat) : isHex (Nat.digitChar (m % 16)) = true := by
      rw [isHex, hexDigit?_digitChar (Nat.mod_lt m (by decide))]
      rfl
    rw [hlength] at hn
    rw [htake]
    simp only [unicodeEscape, Text.hexDigits, List.nil_append, List.cons_append, List.length_cons,
      List.length_nil] at hn ⊢
    interval_cases n <;> simp [readUnits, hhex]
  | plain =>
    rw [byteLength_cons, byteLength_nil] at hn
    rw [takeBytes, if_neg (by omega)]
    exact readUnits_replicate_replacement n

/-- A text that is cut short before its closing quote has none. -/
theorem readUnits_takeBytes_flatMap (n : Nat) (cs : List Char) :
    readUnits (takeBytes n (cs.flatMap escapeChar)) = .error .ended := by
  induction cs generalizing n with
  | nil => rfl
  | cons c cs ih =>
    rw [List.flatMap_cons, takeBytes_append]
    by_cases hn : byteLength (escapeChar c) ≤ n
    · rw [if_pos hn, (writtenAs_escapeChar c).readUnits_append, ih]
      rfl
    · rw [if_neg hn, (writtenAs_escapeChar c).readUnits_takeBytes (by omega)]

theorem readText_takeBytes_flatMap (n : Nat) (cs : List Char) :
    readText (takeBytes n (cs.flatMap escapeChar)) = .error .ended := by
  rw [readText, readUnits_takeBytes_flatMap]
  rfl

/-- The record of a source text up to its first character. -/
def recordOpening : List Char := ['\x7b', '"', 'c', 'o', 'd', 'e', '"', ':', '"']

theorem write_record (source : String) : write (.obj [("code", .str source)]) =
    recordOpening ++ (source.toList.flatMap escapeChar ++ ['"', '\x7d']) := by
  have hcode : writeText "code" = ['"', 'c', 'o', 'd', 'e', '"'] := by decide
  rw [write, writeFields, hcode, write, writeText]
  simp [recordOpening]

theorem narrow_recordOpening : ∀ c ∈ recordOpening, byteWidth c = 1 := by
  have hall : (recordOpening.all fun c => byteWidth c == 1) = true := by decide
  simpa using hall

/-- A record whose text is open, or closed at the end, goes on. -/
theorem readFirst_recordOpening_append {s : List Char}
    (h : readText s = .error .ended ∨ ∃ t, readText s = .ok (t, [])) :
    readFirst (recordOpening ++ s) = .error .ended := by
  have hkey : readText ('c' :: 'o' :: 'd' :: 'e' :: '"' :: ':' :: '"' :: s) =
      .ok ("code", ':' :: '"' :: s) :=
    readText_written "code" _
  have hvalue (fuel : Nat) : readValue (fuel + 1) 1 ('"' :: s) =
      (readText s).map fun p => (.str p.1, p.2) := by
    simp [readValue, skipGap_cons, isGap]
  have hfields (fuel : Nat) : readFields (fuel + 2) 1
      ('"' :: 'c' :: 'o' :: 'd' :: 'e' :: '"' :: ':' :: '"' :: s) = .error .ended := by
    rw [readFields]
    rcases h with h | ⟨t, h⟩
    · simp [skipGap_cons, isGap, hkey, hvalue, h, bind, Except.bind, Except.map]
    · simp [skipGap, isGap, hkey, hvalue, h, bind, Except.bind, Except.map]
  have hfuel : fuelFor (recordOpening ++ s) = 2 * s.length + 17 + 2 + 1 := by
    simp only [fuelFor, recordOpening, List.length_append, List.length_cons, List.length_nil]
    omega
  rw [readFirst, hfuel, readValue]
  have hopen : ¬ maxDepth ≤ 0 := by decide
  simp [recordOpening, skipGap_cons, isGap, hopen, hfields, Except.map]

/-- A record that is cut short ends too early, wherever it is cut. -/
theorem readFirst_takeBytes_record {source : String} {n : Nat}
    (hn : n < byteLength (write (.obj [("code", .str source)]))) :
    readFirst (takeBytes n (write (.obj [("code", .str source)]))) = .error .ended := by
  obtain ⟨htake, hlength⟩ := takeBytes_of_narrow narrow_recordOpening n
  rw [write_record, byteLength_append, byteLength_append] at hn
  rw [write_record, takeBytes_append]
  by_cases hopening : byteLength recordOpening ≤ n
  · rw [if_pos hopening, takeBytes_append]
    generalize hrest : n - byteLength recordOpening = k
    apply readFirst_recordOpening_append
    by_cases htext : byteLength (source.toList.flatMap escapeChar) ≤ k
    · rw [if_pos htext]
      have hlast : k - byteLength (source.toList.flatMap escapeChar) < 2 := by
        have hclosing : byteLength ['"', '\x7d'] = 2 := rfl
        omega
      generalize k - byteLength (source.toList.flatMap escapeChar) = j at hlast
      interval_cases j
      · left
        rw [← readText_takeBytes_flatMap _ source.toList, takeBytes_byteLength]
        exact congrArg readText (List.append_nil _)
      · exact .inr ⟨source, readText_written source []⟩
    · rw [if_neg htext]
      exact .inl (readText_takeBytes_flatMap _ _)
  · rw [if_neg hopening, htake]
    rw [hlength, recordOpening] at hopening
    simp only [List.length_cons, List.length_nil] at hopening
    interval_cases n <;> rfl

/-! ## Sizes -/

/-- The number of bytes that a text takes between the quotes. -/
def escapedSize (source : String) : Nat := byteLength (source.toList.flatMap escapeChar)

theorem byteSize_record (source : String) :
    byteSize (Json.obj [("code", .str source)]).compact = escapedSize source + 11 := by
  rw [byteSize, compact, String.toList_ofList, write_record, byteLength_append, byteLength_append,
    escapedSize, show byteLength recordOpening = 9 by decide, show byteLength ['"', '\x7d'] = 2 by decide]
  omega

theorem WrittenAs.byteLength_le {c : Char} {s : List Char} (h : WrittenAs c s) :
    byteLength s ≤ 6 * byteWidth c := by
  have hpos := byteWidth_pos c
  cases h with
  | short h =>
    rw [byteLength_cons, byteLength_cons, byteLength_nil, byteWidth_of_shortEscape? h,
      show byteWidth '\\' = 1 by decide]
    omega
  | unicode =>
    rw [(takeBytes_of_narrow (narrow_unicodeEscape c.toNat) 0).2]
    have hlength : (unicodeEscape c.toNat).length = 6 := rfl
    omega
  | plain =>
    rw [byteLength_cons, byteLength_nil]
    omega

/-- A text takes at most six times its size. -/
theorem escapedSize_le (source : String) : escapedSize source ≤ 6 * byteSize source := by
  rw [escapedSize, byteSize]
  induction source.toList with
  | nil => decide
  | cons c cs ih =>
    have hc := (writtenAs_escapeChar c).byteLength_le
    rw [List.flatMap_cons, byteLength_append, byteLength_cons]
    omega

/-- A text that takes six times its size. -/
def anglesOf (n : Nat) : String := String.ofList (List.replicate n '<')

theorem byteSize_anglesOf (n : Nat) : byteSize (anglesOf n) = n := by
  have hnarrow : ∀ c ∈ List.replicate n '<', byteWidth c = 1 := by
    intro c hc
    rw [List.eq_of_mem_replicate hc]
    rfl
  rw [byteSize, anglesOf, String.toList_ofList, (takeBytes_of_narrow hnarrow 0).2, List.length_replicate]

theorem escapedSize_anglesOf (n : Nat) : escapedSize (anglesOf n) = 6 * n := by
  rw [escapedSize, anglesOf, String.toList_ofList]
  induction n with
  | zero => rfl
  | succ n ih =>
    rw [List.replicate_succ, List.flatMap_cons, byteLength_append, ih,
      show byteLength (escapeChar '<') = 6 by decide]
    omega

end Json

namespace Server

open Http (Request Response Body)

/-- The number of bytes that are read of a record, by the size of the largest source text. -/
def recordLimit (max : Int) : Nat := ((2 * max + framing).bmod wordValues).toNat

/-- A request for the analysis of a source text, in a record of nothing else. -/
structure Posts (req : Request) (source : String) : Prop where
  reaches : Reaches req .analyze
  body : req.body = (Json.obj [("code", .str source)]).compact

theorem Reaches.status_handle {req : Request} {route : Route} (h : Reaches req route) (m : Moment)
    (s : Server) : (handle m req s).1.status = (respond (handler route m req s).1).status := by
  obtain ⟨more, heq⟩ := h.handle_eq m s
  rw [heq]
  rfl

/-- A source text of a size that is allowed is not too large once it was read. -/
theorem status_analyzeSource {s : Server} {source : String} (h : byteSize source ≤ s.maxSourceBytes)
    (now : Instant) (filename : String) :
    (respond (s.analyzeSource now source filename).1).status ≠ 413 := by
  have hreview {e : Refusal} (he : s.review now source filename = .error e) : e.status ≠ 413 := by
    have hsize : ¬ (decide (s.maxSourceBytes > 0) && decide (byteSize source > s.maxSourceBytes)) := by
      simp only [Bool.and_eq_true, decide_eq_true_iff]
      omega
    rw [review, if_neg hsize] at he
    cases ha : s.analyzer with
    | none =>
      rw [ha] at he
      cases he
      decide
    | some a =>
      rw [ha] at he
      obtain ⟨cause, rfl⟩ : ∃ cause, e = .analysisFailed cause := by
        cases hanalyze : (a.engine s.registry).analyze now false source (trimmed filename) with
        | error cause =>
          simp only [hanalyze, Except.mapError, Except.error.injEq] at he
          exact ⟨cause, he.symm⟩
        | ok r => simp only [hanalyze, Except.mapError, reduceCtorEq] at he
      exact (by decide : (500 : Nat) ≠ 413)
  unfold analyzeSource
  cases hr : s.review now source filename with
  | error e => exact hreview hr
  | ok r =>
    simp only
    cases s.store.save now (r.applyWaivers (s.activeWaivers now)) with
    | error e => exact (by decide : (500 : Nat) ≠ 413)
    | ok result => exact (by decide : (200 : Nat) ≠ 413)

theorem readTexts_record (source : String) :
    readTexts (.whole (Json.obj [("code", .str source)]).compact) ["code", "filename"] =
      .ok [("code", source), ("filename", "")] := by
  have hwithin : Json.Within 1 (.obj [("code", .str source)]) := by simp [Json.Within]
  have hbody : readBody (.whole (Json.obj [("code", .str source)]).compact) =
      .ok (.obj [("code", .str source)]) := by
    rw [readBody, Body.whole, hwithin.readFirst_compact (by decide)]
    rfl
  have hcode : Json.namesField "code" "code" = true := by decide +kernel
  have hfilename : Json.namesField "code" "filename" = false := by decide +kernel
  rw [readTexts, hbody]
  simp [Json.texts?, Json.putText, hcode, hfilename, bind, Except.bind]

theorem readTexts_cut {source : String} {n : Nat}
    (h : n < byteSize (Json.obj [("code", .str source)]).compact) :
    readTexts (.upTo n (Json.obj [("code", .str source)]).compact) ["code", "filename"] =
      .error .requestTooLarge := by
  have hread : Json.readFirst (Text.takeBytes n (Json.obj [("code", .str source)]).compact.toList) =
      .error .ended := by
    rw [byteSize] at h
    rw [Json.compact, String.toList_ofList] at h ⊢
    exact Json.readFirst_takeBytes_record h
  have hbody : readBody (.upTo n (Json.obj [("code", .str source)]).compact) =
      .error .requestTooLarge := by
    rw [readBody, Body.upTo, if_neg (by omega), hread]
    rfl
  rw [readTexts, hbody]
  rfl

theorem status_withAllowance_iff {next : Handler} {m : Moment} {req : Request} {s : Server} {P : Prop}
    (h : ∀ allowance, (respond (next m req { s with allowance }).1).status = 413 ↔ P) :
    (respond (withAllowance next m req s).1).status = 413 ↔ s.allowance ≠ some 0 ∧ P := by
  rw [withAllowance]
  cases hallowance : s.allowance with
  | none =>
    have hnone := h none
    rw [← hallowance] at hnone
    simpa using hnone
  | some n =>
    cases n with
    | zero => exact iff_of_false (by decide : (429 : Nat) ≠ 413) fun hzero => hzero.1 rfl
    | succ n => simpa using h (some n)

/-- A source text of a size that is allowed is refused as too large exactly if its record is. -/
theorem status_eq_tooLarge_iff {s : Server} {req : Request} {source : String} (h : Posts req source)
    (hpos : 0 < s.maxSourceBytes) (hsize : byteSize source ≤ s.maxSourceBytes) (m : Moment) :
    (handle m req s).1.status = 413 ↔
      s.allowance ≠ some 0 ∧ recordLimit s.maxSourceBytes < Json.escapedSize source + 11 := by
  rw [h.reaches.status_handle, ← Json.byteSize_record]
  refine status_withAllowance_iff fun allowance => ?_
  have hbody : ({ s with allowance } : Server).recordBody req =
      .upTo (recordLimit s.maxSourceBytes) (Json.obj [("code", .str source)]).compact := by
    rw [recordBody, if_pos hpos, limitedBody, h.body]
    rfl
  simp only [hbody]
  by_cases hcut : recordLimit s.maxSourceBytes < byteSize (Json.obj [("code", .str source)]).compact
  · rw [readTexts_cut hcut]
    exact iff_of_true rfl hcut
  · rw [Body.upTo, if_pos (by omega), readTexts_record]
    have hread : ({ s with allowance } : Server).maxSourceBytes = s.maxSourceBytes := rfl
    exact iff_of_false (status_analyzeSource (hread ▸ hsize) m.now "") hcut

/-- The limit wraps around for the largest sizes: it is zero, or less than the framing. -/
theorem recordLimit_eq {max : Int} (hpos : 0 < max) (hword : max < 2 ^ 63) :
    (recordLimit max : Int) = if 2 * max + framing < 2 ^ 63 then 2 * max + framing
      else if 2 * max + framing < 2 ^ 64 then 0 else 2 * max + framing - 2 ^ 64 := by
  rw [recordLimit, Int.bmod_def]
  simp only [framing, wordValues]
  split_ifs <;> omega

/-- A request that posts a source text. -/
def postRequest (source : String) : Request where
  method := "POST"
  target := .ofText "/api/v1/analyze"
  headers := []
  body := (Json.obj [("code", .str source)]).compact

theorem posts_postRequest (source : String) : Posts (postRequest source) source := by
  have hescaped : (Http.Target.ofText "/api/v1/analyze").escapedPath = "/api/v1/analyze".toList := by
    decide +kernel
  have hrouted : routedPath (postRequest source) = "/api/v1/analyze".toList := by
    have hmethod : (postRequest source).method ≠ "CONNECT" := (by decide : "POST" ≠ "CONNECT")
    rw [routedPath, if_neg hmethod]
    exact (by decide +kernel : Http.Target.cleanPath (Http.Target.ofText "/api/v1/analyze").escapedPath =
      "/api/v1/analyze".toList)
  refine ⟨⟨?_, hrouted.trans hescaped.symm, (by decide : "POST" ≠ "OPTIONS"), ?_⟩, rfl⟩
  · exact (by decide +kernel : (Http.Target.ofText "/api/v1/analyze").rawPath ≠ ['*'])
  · rw [routeOf, hrouted]
    exact (by decide +kernel : Route.ofPath "POST" (Http.Target.segments "/api/v1/analyze".toList) = .analyze)

/-- No source text of a size that is allowed is refused as too large. -/
def RefusesNone (max : Int) : Prop :=
  ∀ (s : Server) (m : Moment) (req : Request) (source : String), s.maxSourceBytes = max →
    Posts req source → byteSize source ≤ max → (handle m req s).1.status ≠ 413

theorem not_refusesNone_of_lt {max : Int} (hpos : 0 < max) (source : String)
    (hsize : byteSize source ≤ max) (hlimit : recordLimit max < Json.escapedSize source + 11) :
    ¬ RefusesNone max := by
  intro hnone
  refine hnone { maxSourceBytes := max } ⟨.zero, "", ""⟩ (postRequest source) source rfl
    (posts_postRequest source) hsize ?_
  exact (status_eq_tooLarge_iff (posts_postRequest source) hpos hsize _).mpr ⟨nofun, hlimit⟩

/-- A source text of a size that is allowed is refused as too large exactly if its escapes make its
record larger than the limit. None is exactly if the largest size is at most 16381. -/
theorem refusesNone_iff {max : Int} (hpos : 0 < max) (hword : max < 2 ^ 63) :
    (∀ (s : Server) (m : Moment) (req : Request) (source : String), s.maxSourceBytes = max →
      Posts req source → byteSize source ≤ max → ((handle m req s).1.status = 413 ↔
        s.allowance ≠ some 0 ∧ recordLimit max < Json.escapedSize source + 11)) ∧
    (RefusesNone max ↔ max ≤ 16381) := by
  have hlimit := recordLimit_eq hpos hword
  rw [framing] at hlimit
  refine ⟨?_, ?_, ?_⟩
  · rintro s m req source rfl hposts hsize
    exact status_eq_tooLarge_iff hposts hpos hsize m
  · -- the text that takes the most room is refused, whether or not the limit wraps around
    intro hnone
    by_contra hlarge
    refine not_refusesNone_of_lt hpos (Json.anglesOf max.toNat) ?_ ?_ hnone
    · rw [Json.byteSize_anglesOf]
      omega
    · rw [Json.escapedSize_anglesOf]
      split_ifs at hlimit <;> omega
  · rintro hle s m req source rfl hposts hsize hlarge
    obtain ⟨-, hcut⟩ := (status_eq_tooLarge_iff hposts hpos hsize m).mp hlarge
    have hescaped := Json.escapedSize_le source
    rw [if_pos (by omega)] at hlimit
    omega

/-- The largest size that is set by default is too large for that. -/
theorem refusesNone_iff_default : (0 : Int) < 1048576 ∧ (1048576 : Int) < 2 ^ 63 ∧
    ¬ RefusesNone 1048576 := by
  have hpos : (0 : Int) < 1048576 := by decide
  have hword : (1048576 : Int) < 2 ^ 63 := by decide
  refine ⟨hpos, hword, ?_⟩
  rw [(refusesNone_iff hpos hword).2]
  decide

/-- The limit wraps around to zero for the size `2 ^ 62`, where even the empty text is refused; for the
size 16382 it is too small for a text of escapes. -/
theorem not_refusesNone_wrapped_and_escaped : ¬ RefusesNone (2 ^ 62) ∧ ¬ RefusesNone 16382 := by
  refine ⟨not_refusesNone_of_lt (by decide) "" (by decide) (by decide),
    not_refusesNone_of_lt (by decide) (Json.anglesOf 16382) ?_ ?_⟩
  · rw [Json.byteSize_anglesOf]
    decide
  · rw [Json.escapedSize_anglesOf]
    decide

end Server

end JavaReview
