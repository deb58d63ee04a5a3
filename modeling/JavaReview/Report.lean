import JavaReview.Comparison
import JavaReview.File.Tree
import JavaReview.Report.Html
import JavaReview.Report.Text

/-!
Reports: files that hold a review in one of three formats.
-/

namespace JavaReview.Report

/-- The formats of a report. -/
inductive Format where
  | json
  | html
  | text
deriving DecidableEq, Repr

namespace Format

/-- The format of a name. -/
def parse? (name : String) : Option Format :=
  if name = "json" then some .json
  else if name = "html" then some .html
  else if name = "text" ∨ name = "txt" then some .text
  else none

/-- The text for a name that is no format. -/
def unknownMessage (name : String) : String :=
  "unknown format " ++ quoted name ++ " (want json, html or text)"

/-- The extension of the files of a format. -/
def extension : Format → String
  | json => ".json"
  | html => ".html"
  | text => ".txt"

end Format

/-- The name of a report without its extension: a stored review goes by its id, any other by its
file. -/
def baseName (r : Review) : String :=
  if r.id > 0 then "review-" ++ decimal r.id
  else
    let stem := String.ofList
      (Text.dropEnd (Path.ext r.filename).toList (Path.base r.filename).toList)
    "review-" ++ if stem = "" ∨ stem = "." then "inline" else stem

/-- The name of a report file. -/
def fileName (format : Format) (r : Review) : String := baseName r ++ format.extension

/-- The text of a report. -/
def render : Format → Review → String
  | .json, r => r.toJson.pretty ++ "\n"
  | .html, r => renderHtml r
  | .text, r => renderText r

/-- Why a report was not written. -/
inductive WriteError where
  | file (cause : FileError)
  | encoding (fault : Timestamp.JsonFault)
deriving DecidableEq, Repr

/-- The text of a failure. -/
def WriteError.message : WriteError → String
  | file cause => cause.message
  | encoding fault => "json: error calling MarshalJSON for type time.Time: Time.MarshalJSON: " ++ fault.text

/-- The text of a report, unless the review has no text in its format. -/
def encode (format : Format) (r : Review) : Except Timestamp.JsonFault String :=
  match format, r.createdAt.jsonFault? with
  | .json, some fault => .error fault
  | format, _ => .ok (render format r)

/-- Writes a file into a directory, which is made if it is missing: the tree afterwards, and the path of
the file. The file is made before there is a text for it, and stays empty without one. -/
def writeInto (tree : FileTree) (dir name : String) (text : Except Timestamp.JsonFault String) :
    FileTree × Except WriteError String :=
  match tree.makeDirs dir with
  | (tree, some e) => (tree, .error (.file e))
  | (tree, none) =>
    let path := Path.join dir name
    match tree.write path (text.toOption.getD "") with
    | .error e => (tree, .error (.file e))
    | .ok (tree, _) => (tree, (text.map fun _ => path).mapError .encoding)

/-- Writes the report of a review into a directory. -/
def write (tree : FileTree) (dir : String) (format : Format) (r : Review) :
    FileTree × Except WriteError String :=
  writeInto tree dir (fileName format r) (encode format r)

/-- Writes the comparison of two reviews into a directory. -/
def writeComparison (tree : FileTree) (dir : String) (base head : Review) :
    FileTree × Except WriteError String :=
  writeInto tree dir ("diff_" ++ decimal base.id ++ "__" ++ decimal head.id ++ ".json")
    (.ok (Comparison.ofReviews base head).toJson.pretty)

end JavaReview.Report
