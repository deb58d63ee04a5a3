import JavaReview.Http.Form
import JavaReview.Server.Basic
import JavaReview.Text.Space

/-!
Analyses that are asked for by request. A review is stored without the findings that active waivers
accept.
-/

namespace JavaReview.Server

open Http (Request Body)

/-- What a request may be larger than the source text in it. -/
def framing : Int := 65536

/-- A body read up to a limit that is computed with 64 bits; a limit below zero is zero. -/
def limitedBody (limit : Int) (req : Request) : Body := .upTo (limit.bmod wordValues).toNat req.body

/-- The body of a request with a source text in a record. -/
def recordBody (s : Server) (req : Request) : Body :=
  if s.maxSourceBytes > 0 then limitedBody (2 * s.maxSourceBytes + framing) req else .whole req.body

/-- The body of a request with a source text in a form. -/
def formBody (s : Server) (req : Request) : Body :=
  if s.maxSourceBytes > 0 then limitedBody (s.maxSourceBytes + framing) req else .whole req.body

/-- The waivers that are active; if they cannot be listed there are none. -/
def activeWaivers (s : Server) (now : Instant) : List Waiver :=
  ((s.store.listWaivers now true).toOption).getD []

/-- What an analysis answers. -/
def reviewAnswer (r : Review) (waived : Nat) : Json :=
  .obj ([("review_id", .int r.id), ("filename", .str r.filename), ("counts", r.counts.toJson),
      ("issues", Json.ofList? Finding.toJson r.issues)] ++
    Json.fieldIf (waived ≠ 0) "waived" (.int waived))

/-- The review of a source text. -/
def review (s : Server) (now : Instant) (source filename : String) : Except Refusal Review :=
  if s.maxSourceBytes > 0 && byteSize source > s.maxSourceBytes then
    .error (.sourceTooLarge s.maxSourceBytes)
  else
    match s.analyzer with
    | none => .error .internal
    | some a =>
      ((a.engine s.registry).analyze now false source (trimmed filename)).mapError .analysisFailed

/-- Reviews a source text and stores the review. -/
def analyzeSource (s : Server) (now : Instant) (source filename : String) : Outcome × Server :=
  match s.review now source filename with
  | .error e => (.error e, s)
  | .ok r =>
    let ws := s.activeWaivers now
    match s.store.save now (r.applyWaivers ws) with
    | .error e => (.error (.storeFailed e), s)
    | .ok (store, saved) => (reply (reviewAnswer saved (r.waived ws)), { s with store })

/-- Handles a request if analyses are still allowed. -/
def withAllowance (next : Handler) : Handler := fun m req s =>
  match s.allowance with
  | none => next m req s
  | some 0 => (.error .tooManyRequests, s)
  | some (n + 1) => next m req { s with allowance := some n }

/-- Reviews the source text of a record. -/
def analyze : Handler := withAllowance fun m req s =>
  match readTexts (s.recordBody req) ["code", "filename"] with
  | .error e => (.error e, s)
  | .ok record => s.analyzeSource m.now (Json.textOf record "code") (Json.textOf record "filename")

/-- The file of the field `file` of a form. A query that cannot be read spoils the form. -/
def uploadedFile (s : Server) (req : Request) : Except Refusal Http.Form.File :=
  match Http.MediaType.parse? (req.headers.get "Content-Type") with
  | none => .error .noFile
  | some t =>
    let body := s.formBody req
    if t.name ≠ "multipart/form-data" then .error .noFile
    else
      match Http.Form.read (t.get "boundary") body with
      | .error .ended => .error (if body.complete then .noFile else .uploadTooLarge)
      | .error .malformed => .error .noFile
      | .ok files =>
        match files.find? (·.field == "file") with
        | some f => if req.target.query.sound then .ok f else .error .noFile
        | none => .error .noFile

/-- Reviews the source text of an uploaded file. -/
def upload : Handler := withAllowance fun m req s =>
  match s.uploadedFile req with
  | .error e => (.error e, s)
  | .ok f => s.analyzeSource m.now (String.ofList f.content) f.name

end JavaReview.Server
