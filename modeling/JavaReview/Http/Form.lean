import JavaReview.Http.MediaType
import JavaReview.Http.Message
import JavaReview.Http.QuotedPrintable

/-!
Forms that are sent in parts, with a boundary line before every part and a closing one after the
last. A part has header lines, an empty line and a content.
-/

namespace JavaReview.Http.Form

/-- Why a form cannot be read: it ends too early, or it is no form. -/
inductive Error where
  | ended
  | malformed
deriving DecidableEq, Repr

/-- A file of a form. -/
structure File where
  field : String
  name : String
  content : List Char

/-! ## Lines -/

/-- The first line with its line feed, and what follows it; nothing if there is no line feed. -/
def takeLine? : List Char → Option (List Char × List Char)
  | [] => none
  | '\n' :: r => some (['\n'], r)
  | c :: r => (takeLine? r).map fun (l, rest) => (c :: l, rest)

/-- The longest line that is looked at for a boundary. -/
def maxLine : Nat := 4096

/-- A space or a tab. -/
def isBlank (c : Char) : Bool := c = ' ' || c = '\t'

/-- The text without blanks around it. -/
def trimBlanks (s : List Char) : List Char := ((s.dropWhile isBlank).reverse.dropWhile isBlank).reverse

/-- The line without its line break. -/
def chomp (line : List Char) : List Char := Text.dropEnd ['\r'] (Text.dropEnd ['\n'] line)

/-- The first line without its line break, and what follows it. The last line needs no break. -/
def takeHeaderLine? (s : List Char) : Option (List Char × List Char) :=
  match takeLine? s with
  | some (line, rest) => some (chomp line, rest)
  | none => if s.isEmpty then none else some (Text.dropEnd ['\r'] s, [])

/-! ## Headers of a part -/

/-- A line that goes on in the lines after it, which start with a blank. -/
def joinLines : Nat → List Char → List Char → List Char × List Char
  | 0, line, s => (line, s)
  | fuel + 1, line, s =>
    if s.head?.any isBlank then
      match takeHeaderLine? (s.dropWhile isBlank) with
      | some (next, rest) => joinLines fuel (line ++ ' ' :: trimBlanks next) rest
      | none => (line ++ [' '], [])
    else (line, s)

/-- The name and the value of a header line. -/
def header? (line : List Char) : Option (String × String) :=
  let name := line.takeWhile (· ≠ ':')
  let value := (line.dropWhile (· ≠ ':')).drop 1
  let validName (c : Char) : Bool := c = ' ' || isTokenChar c
  let validValue (c : Char) : Bool := c = '\t' || (0x20 ≤ c.toNat && c.toNat ≠ 0x7F)
  if line.contains ':' && name.all validName && value.all validValue then
    some (String.ofList name, String.ofList (value.dropWhile isBlank))
  else none

/-- The header lines of a part and what follows the empty line after them. -/
def headers : Nat → List Char → Except Error (Headers × List Char)
  | 0, _ => .error .malformed
  | fuel + 1, s =>
    match takeHeaderLine? s with
    | none => .error .ended
    | some ([], rest) => .ok ([], rest)
    | some (line, rest) =>
      let (line, rest) := joinLines s.length (trimBlanks line) rest
      match header? line with
      | none => .error .malformed
      | some h => (headers fuel rest).map fun (hs, rest) => (h :: hs, rest)

/-! ## Contents -/

/-- Whether a boundary ends before a text. -/
inductive Follows where
  | yes
  | no
  | unknown

/-- Whether a boundary ends before a text: at a blank, a line break or two dashes. -/
def follows : List Char → Follows
  | [] | ['-'] => .unknown
  | c :: r =>
    if isBlank c || c = '\r' || c = '\n' || (c = '-' && r.head? == some '-') then .yes else .no

/-- The content of a part up to a boundary after a line break, and the text from there on. -/
def content (mark : List Char) : List Char → Except Error (List Char × List Char)
  | [] => .error .ended
  | c :: r =>
    match (Text.eat? mark (c :: r)).map follows with
    | some .yes => .ok ([], c :: r)
    | some .unknown => .error .ended
    | _ => (content mark r).map fun (s, rest) => (c :: s, rest)

/-- The content of a part; a part without one may end in a boundary at once. -/
def contentFrom (newline dash s : List Char) : Except Error (List Char × List Char) :=
  match (Text.eat? dash s).map follows with
  | some .yes => .ok ([], s)
  | some .unknown => .error .ended
  | _ => content (newline ++ dash) s

/-! ## Parts -/

/-- The content of a part as its headers say that it is written. -/
def decoded (hs : Headers) (content : List Char) : Except Error (List Char) :=
  if lowercase (hs.get "Content-Transfer-Encoding") ≠ "quoted-printable" then .ok content
  else
    match QuotedPrintable.decode? content with
    | some s => .ok s
    | none => .error .malformed

/-- The file of a part, if it is one: a part of a form with a field and the name of a file. Of a path
the last component is the name. A part without a field is not looked at. -/
def file? (hs : Headers) (content : List Char) : Except Error (Option File) :=
  match MediaType.parse? (hs.get "Content-Disposition") with
  | none => .ok none
  | some d =>
    let field := d.get "name"
    let name := d.get "filename"
    if d.name ≠ "form-data" || field = "" then .ok none
    else do
      let content ← decoded hs content
      return if name = "" then none else some { field, name := Path.base name, content }

/-- Whether a line closes a form. -/
def isLast (newline dash line : List Char) : Bool :=
  match Text.eat? (dash ++ ['-', '-']) line with
  | none => false
  | some r => (r.dropWhile isBlank).isEmpty || r.dropWhile isBlank == newline

/-- The line break of a form whose boundary line this is. The first boundary line decides whether
lines end in a line feed alone. -/
def boundary? (first : Bool) (newline dash line : List Char) : Option (List Char) :=
  match Text.eat? dash line with
  | none => none
  | some r =>
    let r := r.dropWhile isBlank
    if first && r = ['\n'] then some ['\n'] else if r = newline then some newline else none

/-- Reads the parts of a form. `first` holds before the first part, `due` after the line break that
ends a content; then a boundary has to follow. Every step takes a line at least. -/
def parts (dash : List Char) (complete : Bool) : Nat → Bool → Bool → List Char → List Char →
    Except Error (List File)
  | 0, _, _, _, _ => .error .malformed
  | fuel + 1, first, due, newline, s =>
    match takeLine? s with
    | none => if complete && isLast newline dash s then .ok [] else .error .ended
    | some (line, rest) =>
      if Text.byteLength line > maxLine then .error .malformed
      else
        match boundary? first newline dash line with
        | some newline =>
          match headers (rest.length + 1) rest with
          | .error e => if complete && e = .ended then .ok [] else .error e
          | .ok (hs, rest) => do
            let (text, rest) ← contentFrom newline dash rest
            let file ← file? hs text
            return file.toList ++ (← parts dash complete fuel false false newline rest)
        | none =>
          if isLast newline dash line then .ok []
          else if due then .error .malformed
          else if first then parts dash complete fuel first due newline rest
          else if line = newline then parts dash complete fuel first true newline rest
          else .error .malformed

/-- Reads the files of a form with a boundary. -/
def read (boundary : String) (b : Body) : Except Error (List File) :=
  if boundary = "" then .error .malformed
  else
    parts ('-' :: '-' :: boundary.toList) b.complete (b.text.length + 1) true false ['\r', '\n'] b.text

end JavaReview.Http.Form
