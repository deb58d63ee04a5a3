import JavaReview.Json.Write
import JavaReview.Text.Bytes
import JavaReview.Text.Case
import JavaReview.Text.Quoted
import JavaReview.Text.Space

/-!
Log records. A logger passes the records of its level and above, and writes one line for each, as an
object or as pairs.
-/

namespace JavaReview.Log

/-- How much a record matters. -/
inductive Level where
  | debug
  | info
  | warn
  | error
deriving DecidableEq, Repr

namespace Level

/-- The place of a level among all. -/
def rank : Level → Nat
  | debug => 0
  | info => 1
  | warn => 2
  | error => 3

/-- The name of a level in a record. -/
def name : Level → String
  | debug => "DEBUG"
  | info => "INFO"
  | warn => "WARN"
  | error => "ERROR"

/-- The level that a text names, in any case; any other text names `info`. -/
def parse (s : String) : Level :=
  match lowercase s with
  | "debug" => debug
  | "warn" => warn
  | "error" => error
  | _ => info

end Level

/-- The forms of a log. -/
inductive Format where
  | json
  | pairs
deriving DecidableEq, Repr

namespace Format

/-- The form that a text names: pairs for `text` in any case, objects for all else. -/
def parse (s : String) : Format := if lowercase s = "text" then pairs else json

end Format

/-- One record: a message and at most one detail. -/
structure Record where
  level : Level
  message : String
  detail : Option (String × String) := none

/-- The fields of a record, in order. -/
def Record.fields (r : Record) : List (String × String) :=
  [("level", r.level.name), ("msg", r.message)] ++ r.detail.toList

/-- A character as it stands in an object of the log. -/
def escapeChar (c : Char) : List Char :=
  let n := c.toNat
  if c = '"' then ['\\', '"']
  else if c = '\\' then ['\\', '\\']
  else if n = 0x0A then ['\\', 'n']
  else if n = 0x0D then ['\\', 'r']
  else if n = 0x09 then ['\\', 't']
  else if n < 0x20 || n = 0x2028 || n = 0x2029 then Json.unicodeEscape n
  else [c]

/-- A text between double quotes. -/
def jsonText (s : String) : String := String.ofList ('"' :: s.toList.flatMap escapeChar ++ ['"'])

/-- Whether a text has to be quoted to stand in a pair. -/
def needsQuotes (s : String) : Bool :=
  s.isEmpty || s.toList.any fun c =>
    c = '"' || c = '=' || c = Text.replacement || Text.isSpace c ||
      !(c.toNat = 0x7F || Text.isPrintable c)

/-- A text as it stands in a pair. -/
def pairText (s : String) : String := if needsQuotes s then quoted s else s

/-- The line of a record, without its time. -/
def line (format : Format) (r : Record) : String :=
  match format with
  | .json =>
    "\x7b" ++ ",".intercalate (r.fields.map fun f => jsonText f.1 ++ ":" ++ jsonText f.2) ++ "\x7d"
  | .pairs => " ".intercalate (r.fields.map fun f => pairText f.1 ++ "=" ++ pairText f.2)

/-- The lines of the records that pass. -/
def lines (format : Format) (least : Level) (rs : List Record) : List String :=
  (rs.filter fun r => least.rank ≤ r.level.rank).map (line format)

end JavaReview.Log
