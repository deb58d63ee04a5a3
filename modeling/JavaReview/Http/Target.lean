import JavaReview.Path
import JavaReview.Text.Bytes
import JavaReview.Text.Quoted
import JavaReview.Text.Unicode.Ranges

/-!
Targets of requests: a path and a query. Both are written with percent escapes for bytes.
-/

namespace JavaReview.Http

open Text.Unicode (hexDigit?)

/-! ## Escapes -/

/-- The bytes that a text with percent escapes writes, or nothing if an escape is broken. -/
def unescape? : List Char → Option (List Nat)
  | [] => some []
  | '%' :: a :: b :: r => do
    let x ← hexDigit? a
    let y ← hexDigit? b
    return (16 * x + y) :: (← unescape? r)
  | c :: r => if c = '%' then none else (unescape? r).map (Text.charBytes c ++ ·)

/-- The characters that are never escaped in a path. -/
def isPathChar (c : Char) : Bool := c.isAlphanum || "-_.~$&+,/:;=@".toList.contains c

/-- The characters that may stand in a path as they are. -/
def isValidPathChar (c : Char) : Bool := isPathChar c || "!'()*[]%".toList.contains c

/-- A byte as an escape. -/
def percent (b : Nat) : List Char := '%' :: (Text.hexDigits 2 b).map Char.toUpper

/-- Bytes as a path. -/
def escapePath (bs : List Nat) : List Char :=
  bs.flatMap fun b => if b < 0x80 && isPathChar (Char.ofNat b) then [Char.ofNat b] else percent b

/-- The text that a segment writes; a segment with a broken escape stands for itself. -/
def unescapeSegment (s : List Char) : List Char := ((unescape? s).map Text.ofBytes).getD s

/-! ## Queries -/

/-- The text that a part of a query writes: a plus sign stands for a space. -/
def unescapeQuery? (s : List Char) : Option String :=
  (unescape? (s.map fun c => if c = '+' then ' ' else c)).map fun bs => String.ofList (Text.ofBytes bs)

/-- Why a part of a query cannot be read. -/
inductive QueryFault where
  | semicolon
  | escape (text : String)
deriving DecidableEq, Repr

namespace QueryFault

/-- The text of a fault. -/
def message : QueryFault → String
  | semicolon => "invalid semicolon separator in query"
  | escape text => "invalid URL escape " ++ quoted text

end QueryFault

/-- The first escape that is broken: a percent sign and at most two bytes after it. -/
def brokenEscape : List Char → String
  | [] => ""
  | '%' :: r =>
    if (unescape? ('%' :: r.take 2)).isSome then brokenEscape r
    else String.ofList (Text.ofBytes ((Text.bytes ('%' :: r)).take 3))
  | _ :: r => brokenEscape r

/-- The text of a key or a value. -/
def readPart (s : List Char) : Except QueryFault String :=
  match unescapeQuery? s with
  | some t => .ok t
  | none => .error (.escape (brokenEscape s))

/-- The key and the value of a part of a query. A part with a semicolon or a broken escape is
refused. -/
def readPair (part : List Char) : Except QueryFault (String × String) :=
  if part.contains ';' then .error .semicolon
  else do
    let key ← readPart (part.takeWhile (· ≠ '='))
    let value ← readPart ((part.dropWhile (· ≠ '=')).drop 1)
    return (key, value)

/-- The parts of a query that are not empty. -/
def queryParts (query : List Char) : List (List Char) :=
  (Text.splitOn '&' query).filter (!·.isEmpty)

/-- A query: its pairs in order, and what is wrong with the first part that could not be read. -/
structure Query where
  pairs : List (String × String)
  fault : Option QueryFault

namespace Query

/-- Reads a query, leaving out what cannot be read. -/
def ofText (query : List Char) : Query :=
  let parts := (queryParts query).map readPair
  { pairs := parts.filterMap Except.toOption
    fault := parts.findSome? fun
      | .error e => some e
      | .ok _ => none }

/-- Whether all parts could be read. -/
def sound (q : Query) : Bool := q.fault.isNone

/-- The first value of a key, or the empty text. -/
def get (q : Query) (key : String) : String := (q.pairs.lookup key).getD ""

end Query

/-! ## Targets -/

/-- What a request asks for, as it is written. -/
structure Target where
  rawPath : List Char
  rawQuery : List Char

namespace Target

/-- The path of a target that may name a scheme and a host before it. -/
def pathPart (s : List Char) : List Char :=
  let scheme := s.takeWhile fun c => c.isAlphanum || "+-.".toList.contains c
  match s.drop scheme.length with
  | ':' :: '/' :: '/' :: r => if scheme.head?.any Char.isAlpha then r.dropWhile (· ≠ '/') else s
  | _ => s

/-- The path and the query of a target. -/
def ofText (s : String) : Target :=
  { rawPath := pathPart (s.toList.takeWhile (· ≠ '?'))
    rawQuery := (s.toList.dropWhile (· ≠ '?')).drop 1 }

/-- The path without escapes. -/
def path (t : Target) : String := String.ofList (unescapeSegment t.rawPath)

/-- The query of a target. -/
def query (t : Target) : Query := .ofText t.rawQuery

/-- The path with escapes for all that needs one. -/
def escapedPath (t : Target) : List Char :=
  if t.rawPath.all isValidPathChar then t.rawPath
  else ((unescape? t.rawPath).map escapePath).getD t.rawPath

/-- The path without empty and dotted segments; a slash at its end is kept. -/
def cleanPath (path : List Char) : List Char :=
  let p := if path.head? == some '/' then path else '/' :: path
  let clean := (Path.clean (String.ofList p)).toList
  if p.getLast? == some '/' && clean != ['/'] then clean ++ ['/'] else clean

/-- The segments of a path that starts with a slash, without their escapes. -/
def segments (path : List Char) : List String :=
  ((Text.splitOn '/' path).drop 1).map fun s => String.ofList (unescapeSegment s)

/-- The text of a path in the place of this one, with the same query. -/
def withPath (t : Target) (path : List Char) : String :=
  String.ofList (escapePath (Text.bytes path) ++ if t.rawQuery.isEmpty then [] else '?' :: t.rawQuery)

end Target

end JavaReview.Http
