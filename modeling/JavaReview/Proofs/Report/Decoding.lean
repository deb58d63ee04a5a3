import JavaReview.Proofs.Json.RoundTrip
import JavaReview.Proofs.Time.RoundTrip
import JavaReview.Report

/-!
JSON reports say all of a review. Reading takes the values of an object one after the other: a key
names a field up to case, `null` leaves a field as it is, and what is left out keeps its zero value.
A review whose numbers have 64 bits is read back from its report, save for the seconds of the offset of
its time (`Review.ofJson?_toJson`), so two reviews have the same report only if they say the same.
-/

namespace JavaReview

namespace Json

/-! ## Reading records -/

/-- A number of 64 bits. -/
def takeInt (old : Int) : Json → Option Int
  | .null => some old
  | .int n => if fitsWord n then some n else none
  | .real t => readDecimal? t.toList
  | _ => none

/-- A text. -/
def takeText (old : String) : Json → Option String
  | .null => some old
  | .str s => some s
  | _ => none

/-- A time. -/
def takeTime (old : Timestamp) : Json → Option Timestamp
  | .null => some old
  | .str s => Timestamp.ofText? s
  | _ => none

/-- A list, where `null` stands for no list. -/
def takeList {α : Type} (item? : Json → Option α) : Json → Option (Option (List α))
  | .null => some none
  | .arr items => (items.mapM item?).map some
  | _ => none

/-- A record, one field after the other. Keys that name no field are passed over. -/
def takeRecord {α κ : Type} (field? : String → Option κ) (put : α → κ → Json → Option α) (old : α) :
    Json → Option α
  | .null => some old
  | .obj fields => fields.foldlM (fun a f =>
      match field? f.1 with
      | some x => put a x f.2
      | none => some a) old
  | _ => none

section

variable {α κ : Type} {field? : String → Option κ} {put : α → κ → Json → Option α} {old : α} {x : κ}
  {key : String} {fields : List (String × Json)} {v : Json}

theorem takeRecord_nil : takeRecord field? put old (.obj []) = some old := rfl

theorem takeRecord_cons (h : field? key = some x) :
    takeRecord field? put old (.obj ((key, v) :: fields)) =
      (put old x v).bind fun a => takeRecord field? put a (.obj fields) := by
  simp only [takeRecord, List.foldlM_cons, h]
  rfl

theorem takeRecord_cons_other (h : field? key = none) :
    takeRecord field? put old (.obj ((key, v) :: fields)) = takeRecord field? put old (.obj fields) := by
  simp only [takeRecord, List.foldlM_cons, h]
  rfl

/-- A field may be left out if reading it changes nothing. -/
theorem takeRecord_fieldIf (h : field? key = some x) {keep : Bool}
    (hskip : keep = false → put old x v = some old) :
    takeRecord field? put old (.obj (fieldIf keep key v ++ fields)) =
      (put old x v).bind fun a => takeRecord field? put a (.obj fields) := by
  cases keep with
  | true => rw [fieldIf, if_pos rfl, List.singleton_append, takeRecord_cons h]
  | false => rw [fieldIf, if_neg Bool.false_ne_true, List.nil_append, hskip rfl, Option.bind_some]

theorem takeList_ofList? {f : α → Json} {item? : Json → Option α} {l : Option (List α)}
    (h : ∀ a ∈ l.getD [], item? (f a) = some a) : takeList item? (ofList? f l) = some l := by
  cases l with
  | none => rfl
  | some l =>
    rw [ofList?, takeList]
    induction l with
    | nil => rfl
    | cons a l ih =>
      obtain ⟨ha, hl⟩ := List.forall_mem_cons.mp h
      have hrest := Option.map_eq_some_iff.mp (ih hl)
      simp only [Option.some.injEq, exists_eq_right] at hrest
      simp [List.mapM_cons, ha, hrest]

end

end Json

open Json (takeInt takeText takeTime takeList takeRecord)

/-! ## Findings -/

/-- The fields of a finding. -/
inductive Finding.Field where
  | id | rule | line | title | description | suggestion | category | severity

/-- The key of a field. -/
abbrev Finding.Field.key : Field → String
  | id => "id"
  | rule => "rule"
  | line => "line_number"
  | title => "title"
  | description => "description"
  | suggestion => "suggestion"
  | category => "category"
  | severity => "severity"

/-- The field that a key names. -/
def Finding.field? (key : String) : Option Field :=
  [.id, .rule, .line, .title, .description, .suggestion, .category, .severity].find?
    fun x : Field => Json.namesField key x.key

/-- The finding with the value of one field. -/
def Finding.put (f : Finding) : Field → Json → Option Finding
  | .id, v => (takeInt f.id v).map fun id => { f with id }
  | .rule, v => (takeText f.rule v).map fun rule => { f with rule }
  | .line, v => (takeInt f.line v).map fun line => { f with line }
  | .title, v => (takeText f.title v).map fun title => { f with title }
  | .description, v => (takeText f.description v).map fun description => { f with description }
  | .suggestion, v => (takeText f.suggestion v).map fun suggestion => { f with suggestion }
  | .category, v => (takeText f.category.name v).map fun name => { f with category := ⟨name⟩ }
  | .severity, v => (takeText f.severity.name v).map fun name => { f with severity := ⟨name⟩ }

/-- Reads a finding. -/
def Finding.ofJson? (v : Json) : Option Finding := takeRecord field? put {} v

theorem Finding.field?_key (x : Field) : field? x.key = some x := by
  cases x <;> rfl

theorem Finding.ofJson?_toJson {f : Finding} (hid : fitsWord f.id = true)
    (hline : fitsWord f.line = true) : ofJson? f.toJson = some f := by
  have hskip : decide (f.id ≠ 0) = false → put {} .id (.int f.id) = some {} := by
    intro hzero
    rw [show f.id = 0 by simpa using hzero]
    rfl
  rw [toJson, ofJson?, Json.takeRecord_fieldIf (field?_key .id) hskip]
  simp only [Json.takeRecord_cons (field?_key .rule), Json.takeRecord_cons (field?_key .line),
    Json.takeRecord_cons (field?_key .title), Json.takeRecord_cons (field?_key .description),
    Json.takeRecord_cons (field?_key .suggestion), Json.takeRecord_cons (field?_key .category),
    Json.takeRecord_cons (field?_key .severity), Json.takeRecord_nil, put, takeInt, takeText, hid,
    hline, if_true, Option.map_some, Option.bind_some]

/-! ## Counts -/

/-- The fields of counts that are read; the total is not one of them. -/
inductive Counts.Field where
  | errors | warnings | optimizations | security

/-- The key of a field. -/
abbrev Counts.Field.key : Field → String
  | errors => "error_count"
  | warnings => "warning_count"
  | optimizations => "optimization_count"
  | security => "security_count"

/-- The field that a key names. -/
def Counts.field? (key : String) : Option Field :=
  [.errors, .warnings, .optimizations, .security].find? fun x : Field => Json.namesField key x.key

/-- The counts with the value of one field. -/
def Counts.put (c : Counts) : Field → Json → Option Counts
  | .errors, v => (takeInt c.errors v).map fun errors => { c with errors }
  | .warnings, v => (takeInt c.warnings v).map fun warnings => { c with warnings }
  | .optimizations, v => (takeInt c.optimizations v).map fun optimizations => { c with optimizations }
  | .security, v => (takeInt c.security v).map fun security => { c with security }

/-- The sum of the counts, however large. -/
def Counts.sum (c : Counts) : Int := c.errors + c.warnings + c.optimizations + c.security

theorem Counts.total_eq_sum_iff {c : Counts} : c.total = c.sum ↔ fitsWord c.sum = true := by
  rw [total, ← sum, fitsWord, Bool.and_eq_true, decide_eq_true_iff, decide_eq_true_iff]
  have hleast : -(wordValues / 2 : Int) ≤ c.sum.bmod wordValues := Int.le_bmod (by decide)
  have hmost : c.sum.bmod wordValues < (wordValues + 1) / 2 := Int.bmod_lt (by decide)
  simp only [wordValues, leastWord] at hleast hmost ⊢
  constructor
  · intro heq
    omega
  · rintro ⟨hfrom, hto⟩
    apply Int.bmod_eq_of_le_mul_two <;> omega

/-- Counts of 64 bits. -/
structure Counts.FitWords (c : Counts) : Prop where
  errors : fitsWord c.errors = true
  warnings : fitsWord c.warnings = true
  optimizations : fitsWord c.optimizations = true
  security : fitsWord c.security = true

theorem Counts.field?_key (x : Field) : field? x.key = some x := by
  cases x <;> rfl

theorem Counts.takeRecord_toJson {c old : Counts} (h : c.FitWords) :
    takeRecord field? put old c.toJson = some c := by
  have htotal : field? "total_issues" = none := rfl
  simp only [toJson, Json.takeRecord_cons (field?_key .errors),
    Json.takeRecord_cons (field?_key .warnings), Json.takeRecord_cons (field?_key .optimizations),
    Json.takeRecord_cons (field?_key .security), Json.takeRecord_cons_other htotal,
    Json.takeRecord_nil, put, takeInt, h.errors, h.warnings, h.optimizations, h.security, if_true,
    Option.map_some, Option.bind_some]

/-! ## Reviews -/

/-- The fields of a review. -/
inductive Review.Field where
  | id | filename | source | createdAt | version | counts | issues

/-- The key of a field. -/
abbrev Review.Field.key : Field → String
  | id => "review_id"
  | filename => "filename"
  | source => "code"
  | createdAt => "created_at"
  | version => "ir_version"
  | counts => "counts"
  | issues => "issues"

/-- The field that a key names. -/
def Review.field? (key : String) : Option Field :=
  [.id, .filename, .source, .createdAt, .version, .counts, .issues].find?
    fun x : Field => Json.namesField key x.key

/-- The review with the value of one field. -/
def Review.put (r : Review) : Field → Json → Option Review
  | .id, v => (takeInt r.id v).map fun id => { r with id }
  | .filename, v => (takeText r.filename v).map fun filename => { r with filename }
  | .source, v => (takeText r.source v).map fun source => { r with source }
  | .createdAt, v => (takeTime r.createdAt v).map fun createdAt => { r with createdAt }
  | .version, v => (takeText r.version v).map fun version => { r with version }
  | .counts, v =>
    (takeRecord Counts.field? Counts.put r.counts v).map fun counts => { r with counts }
  | .issues, v => (takeList Finding.ofJson? v).map fun issues => { r with issues }

/-- Reads a review. -/
def Review.ofJson? (v : Json) : Option Review := takeRecord field? put {} v

namespace Review

/-- A review whose numbers have 64 bits, made at a time that can be written. -/
structure IsWritable (r : Review) : Prop where
  time : r.createdAt.IsWritable
  id : fitsWord r.id = true
  counts : r.counts.FitWords
  findings : ∀ f ∈ r.findings, fitsWord f.id = true ∧ fitsWord f.line = true

/-- What the report of a review says: all of it, save for the seconds of the offset of its time. -/
def written (r : Review) : Review := { r with createdAt := r.createdAt.written }

theorem written_eq_self_iff {r : Review} : r.written = r ↔ r.createdAt.offset % 60 = 0 := by
  rw [← Timestamp.written_eq_self_iff]
  cases r
  simp [written]

theorem field?_key (x : Field) : field? x.key = some x := by
  cases x <;> rfl

theorem ofJson?_toJson {r : Review} (h : r.IsWritable) : ofJson? r.toJson = some r.written := by
  have hid : decide (r.id ≠ 0) = false → put {} .id (.int r.id) = some {} := by
    intro hzero
    rw [show r.id = 0 by simpa using hzero]
    rfl
  have hsource (old : Review) (hold : old.source = "") : decide (r.source ≠ "") = false →
      put old .source (.str r.source) = some old := by
    intro hempty
    rw [show r.source = old.source by simpa [hold] using hempty]
    rfl
  have hversion (old : Review) (hold : old.version = "") : decide (r.version ≠ "") = false →
      put old .version (.str r.version) = some old := by
    intro hempty
    rw [show r.version = old.version by simpa [hold] using hempty]
    rfl
  have hissues : takeList Finding.ofJson? (Json.ofList? Finding.toJson r.issues) = some r.issues :=
    Json.takeList_ofList? fun f hf => Finding.ofJson?_toJson (h.findings f hf).1 (h.findings f hf).2
  simp only [toJson, ofJson?, List.append_assoc, List.cons_append, List.nil_append]
  rw [Json.takeRecord_fieldIf (field?_key .id) hid]
  simp only [put, takeInt, h.id, if_true, Option.map_some, Option.bind_some]
  rw [Json.takeRecord_cons (field?_key .filename)]
  simp only [put, takeText, Option.map_some, Option.bind_some]
  rw [Json.takeRecord_fieldIf (field?_key .source) (hsource _ rfl)]
  simp only [put, takeText, Option.map_some, Option.bind_some]
  rw [Json.takeRecord_cons (field?_key .createdAt)]
  simp only [put, takeTime, Timestamp.ofText?_text h.time, Option.map_some, Option.bind_some]
  rw [Json.takeRecord_fieldIf (field?_key .version) (hversion _ rfl)]
  simp only [put, takeText, Option.map_some, Option.bind_some]
  rw [Json.takeRecord_cons (field?_key .counts)]
  simp only [put, Counts.takeRecord_toJson h.counts, Option.map_some, Option.bind_some]
  rw [Json.takeRecord_cons (field?_key .issues)]
  simp only [put, hissues, Json.takeRecord_nil, Option.map_some, Option.bind_some]
  rfl

/-- How the object of a review says what is not there: zero values are left out, `null` is no list and
`[]` a list without findings. The total is the sum of the counts, as far as 64 bits hold it. -/
structure Shows (r : Review) (fields : List (String × Json)) : Prop where
  keys : (fields.map Prod.fst).Nodup
  id : "review_id" ∈ fields.map Prod.fst ↔ r.id ≠ 0
  source : "code" ∈ fields.map Prod.fst ↔ r.source ≠ ""
  version : "ir_version" ∈ fields.map Prod.fst ↔ r.version ≠ ""
  no_list : ("issues", .null) ∈ fields ↔ r.issues = none
  empty_list : ("issues", .arr []) ∈ fields ↔ r.issues = some []
  total : ∃ counts total, ("counts", .obj counts) ∈ fields ∧ ("total_issues", .int total) ∈ counts ∧
    total = r.counts.sum.bmod wordValues ∧ (total = r.counts.sum ↔ fitsWord r.counts.sum = true)

theorem shows_toJson (r : Review) : ∃ fields, r.toJson = .obj fields ∧ r.Shows fields := by
  have hkeys (keep : Bool) (key : String) (v : Json) :
      (Json.fieldIf keep key v).map Prod.fst = if keep then [key] else [] := by
    cases keep <;> rfl
  have hissues (keep : Bool) (key : String) (v w : Json) (hkey : key ≠ "issues") :
      ("issues", w) ∉ Json.fieldIf keep key v := by
    cases keep <;> simp [Json.fieldIf, hkey.symm]
  obtain ⟨counts, hcounts, htotal⟩ : ∃ counts, r.counts.toJson = .obj counts ∧
      ("total_issues", .int r.counts.total) ∈ counts :=
    ⟨_, rfl, by simp⟩
  refine ⟨_, rfl, ?_, ?_, ?_, ?_, ?_, ?_, counts, r.counts.total, ?_, htotal, rfl,
    Counts.total_eq_sum_iff⟩
  · simp only [List.map_append, hkeys, List.map_cons, List.map_nil]
    cases decide (r.id ≠ 0) <;> cases decide (r.source ≠ "") <;> cases decide (r.version ≠ "") <;>
      decide +kernel
  · simp [hkeys]
  · simp [hkeys]
  · simp [hkeys]
  · cases r.issues <;> simp [hissues, Json.ofList?]
  · cases r.issues <;> simp [hissues, Json.ofList?]
  · simp [hcounts]

theorem within_toJson (r : Review) : Json.Within 3 r.toJson := by
  have hif (n : Nat) (keep : Bool) (key : String) (v : Json) (hv : Json.Within n v) :
      ∀ f ∈ Json.fieldIf keep key v, Json.Within n f.2 := by
    cases keep <;> simp [Json.fieldIf, hv]
  have hfinding (f : Finding) : Json.Within 1 f.toJson := by
    refine List.forall_mem_append.mpr ⟨hif _ _ _ _ trivial, ?_⟩
    simp [Json.Within]
  have hcounts : Json.Within 2 r.counts.toJson := by
    simp [Json.Within, Counts.toJson]
  have hissues : Json.Within 2 (Json.ofList? Finding.toJson r.issues) := by
    cases r.issues with
    | none => trivial
    | some fs => exact List.forall_mem_map.mpr fun f _ => hfinding f
  have hid := hif 2 (r.id ≠ 0) "review_id" (.int r.id) trivial
  have hsource := hif 2 (r.source ≠ "") "code" (.str r.source) trivial
  have hversion := hif 2 (r.version ≠ "") "ir_version" (.str r.version) trivial
  simp only [toJson, Json.Within, List.forall_mem_append, List.forall_mem_cons]
  simp only [Json.Within] at hcounts hissues hid hsource hversion
  exact ⟨⟨⟨⟨⟨hid, trivial, by simp⟩, hsource⟩, trivial, by simp⟩, hversion⟩, hcounts, hissues, by simp⟩

end Review

namespace Report

theorem readWhole_json (r : Review) : Json.readWhole (render .json r).toList = .ok r.toJson := by
  rw [render]
  exact r.within_toJson.readWhole_pretty (by simp [Json.maxDepth])

theorem toJson_eq_of_render_eq {r r' : Review} (h : render .json r' = render .json r) :
    r'.toJson = r.toJson := by
  have hread := readWhole_json r'
  rw [h, readWhole_json] at hread
  exact (Except.ok.inj hread).symm

/-- A JSON report is one object that says all of its review: it is read back, save for the seconds of
the offset of its time, so reviews with the same report say the same. -/
theorem json_decodes {r : Review} (h : r.IsWritable) :
    (∃ fields, Json.readWhole (render .json r).toList = .ok (.obj fields) ∧
      Review.ofJson? (.obj fields) = some r.written ∧ r.Shows fields) ∧
    (r.written = r ↔ r.createdAt.offset % 60 = 0) ∧
    ∀ r' : Review, r'.IsWritable → render .json r' = render .json r → r'.written = r.written := by
  refine ⟨?_, Review.written_eq_self_iff, ?_⟩
  · obtain ⟨fields, hfields, hshows⟩ := r.shows_toJson
    have hread := readWhole_json r
    have hdecoded := Review.ofJson?_toJson h
    rw [hfields] at hread hdecoded
    exact ⟨fields, hread, hdecoded, hshows⟩
  · intro r' h' hsame
    have hwritten := Review.ofJson?_toJson h'
    rw [toJson_eq_of_render_eq hsame, Review.ofJson?_toJson h] at hwritten
    exact (Option.some.inj hwritten).symm

/-- A review with texts that need escapes, a finding that is not stored, and a time to the nanosecond at
an offset of two hours. -/
def escaped : Review where
  id := 7
  filename := "a\"b\\c.java"
  source := "if (a < b && c > d) \u2028\u2029 \x01\t\r\n 𝄞"
  createdAt := ⟨⟨1582979696, ⟨789, by decide⟩⟩, 7200⟩
  counts := { errors := -1, warnings := 9223372036854775807 }
  issues := some [{ rule := "<rule>", line := -3, category := ⟨"'"⟩ }, { id := 4 }]

theorem json_decodes_escaped :
    escaped.IsWritable ∧ ∃ fields, Json.readWhole (render .json escaped).toList = .ok (.obj fields) ∧
      Review.ofJson? (.obj fields) = some escaped := by
  have h : escaped.IsWritable :=
    ⟨⟨by decide +kernel, by decide⟩, by decide, ⟨by decide, by decide, by decide, by decide⟩,
      by decide⟩
  obtain ⟨⟨fields, hread, hdecoded, -⟩, hself, -⟩ := json_decodes h
  rw [hself.mpr rfl] at hdecoded
  exact ⟨h, fields, hread, hdecoded⟩

/-- The total of a report may be less than a count in it, and reviews that were made at different times
may have the same report. -/
theorem json_total_ne_sum_and_not_injective :
    (∃ r : Review, r.IsWritable ∧ r.written = r ∧ ∃ fields counts,
      Json.readWhole (render .json r).toList = .ok (.obj fields) ∧ ("counts", .obj counts) ∈ fields ∧
      ("total_issues", .int (-9223372036854775808)) ∈ counts ∧ r.counts.sum = 9223372036854775808) ∧
    ∃ a b : Review, a.IsWritable ∧ b.IsWritable ∧ a ≠ b ∧ render .json a = render .json b := by
  have hwritable (t : Timestamp) (c : Counts) (ht : t.IsWritable) (hc : c.FitWords) :
      Review.IsWritable { createdAt := t, counts := c } :=
    ⟨ht, rfl, hc, by simp [Review.findings]⟩
  have hzero : Counts.FitWords {} := ⟨rfl, rfl, rfl, rfl⟩
  constructor
  · let r : Review := { counts := { errors := 9223372036854775807, warnings := 1 } }
    obtain ⟨fields, hfields, hshows⟩ := r.shows_toJson
    obtain ⟨counts, total, hcounts, htotal, hwraps, -⟩ := hshows.total
    rw [show r.counts.sum.bmod wordValues = -9223372036854775808 by decide] at hwraps
    exact ⟨r, hwritable .zero _ ⟨by decide +kernel, by decide⟩ ⟨by decide, by decide, rfl, rfl⟩,
      Review.written_eq_self_iff.mpr rfl, fields, counts, hfields ▸ readWhole_json r, hcounts,
      hwraps ▸ htotal, by decide⟩
  · refine ⟨{ createdAt := ⟨⟨0, 0⟩, 30⟩ }, { createdAt := ⟨⟨-1, 0⟩, 31⟩ },
      hwritable _ _ ⟨by decide +kernel, by decide⟩ hzero,
      hwritable _ _ ⟨by decide +kernel, by decide⟩ hzero, by decide, ?_⟩
    have htext : Timestamp.text ⟨⟨0, 0⟩, 30⟩ = Timestamp.text ⟨⟨-1, 0⟩, 31⟩ := by decide +kernel
    simp only [render, Review.toJson, htext]

end Report

end JavaReview
