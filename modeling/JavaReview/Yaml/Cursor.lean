import JavaReview.Yaml.Window

/-!
Reading a YAML text: a cursor holds what is left of the text and where that starts. The end of the
text counts as the end of a line. What is looked at has to be taken in first, so every step says how
many characters it needs.
-/

namespace JavaReview.Yaml

/-- Why a text could not be read. -/
structure Error where
  problem : String
deriving DecidableEq, Repr

/-- The text of an error. -/
def Error.message (e : Error) : String := "yaml: " ++ e.problem

/-- A result or an error. -/
abbrev Result (α : Type) := Except Error α

/-- An error with the given text. -/
def fail {α : Type} (problem : String) : Result α := .error ⟨problem⟩

/-- A space or a tab. -/
def isBlank (c : Char) : Bool := c = ' ' || c = '\t'

/-- The five line breaks. -/
def isBreak (c : Char) : Bool :=
  c = '\n' || c = '\r' || c.toNat = 0x85 || c.toNat = 0x2028 || c.toNat = 0x2029

/-- Letters, digits, the underscore and the hyphen. -/
def isNameChar (c : Char) : Bool := c.isAlphanum || c = '_' || c = '-'

/-- A place in a text. `breaks` counts the line breaks since the last character that is not blank. -/
structure Cursor where
  rest : List Char
  window : Window
  line : Nat := 0
  column : Nat := 0
  index : Nat := 0
  breaks : Nat := 0

namespace Cursor

/-- The start of a text. A byte order mark there is no part of the text. -/
def ofText (text : List Char) : Cursor :=
  match text with
  | c :: r =>
    if c = byteOrderMark then { rest := r, window := .ofText c.utf8Size r }
    else { rest := text, window := .ofText 0 text }
  | [] => { rest := [], window := .ofText 0 [] }

/-- Whether the text ends here. -/
def atEnd (c : Cursor) : Bool := c.rest.isEmpty

/-- The character some places ahead. -/
def ahead? (c : Cursor) (n : Nat) : Option Char := c.rest[n]?

/-- Whether the character some places ahead is the given one. -/
def sees (c : Cursor) (n : Nat) (x : Char) : Bool := c.ahead? n == some x

/-- Whether a space or a tab is some places ahead. -/
def blankAt (c : Cursor) (n : Nat) : Bool := (c.ahead? n).any isBlank

/-- Whether a line break is some places ahead. -/
def breakAt (c : Cursor) (n : Nat) : Bool := (c.ahead? n).any isBreak

/-- Whether the text or the line ends some places ahead. -/
def endAt (c : Cursor) (n : Nat) : Bool := (c.ahead? n).all isBreak

/-- Whether a blank or an end is some places ahead. -/
def gapAt (c : Cursor) (n : Nat) : Bool := (c.ahead? n).all fun x => isBlank x || isBreak x

/-- The cursor with some characters taken in. -/
def need (n : Nat) (c : Cursor) : Cursor :=
  { c with window := c.window.need (c.index + n) (c.sees 0 byteOrderMark) }

/-- The cursor after one character of the line. -/
def skip (c : Cursor) : Cursor :=
  match c.rest with
  | [] => c
  | x :: r =>
    { c with rest := r, column := c.column + 1, index := c.index + 1,
             breaks := if isBlank x then c.breaks else 0 }

/-- The cursor after some characters of the line. -/
def skipMany : Nat → Cursor → Cursor
  | 0, c => c
  | n + 1, c => skipMany n c.skip

/-- The cursor after some characters of the line, `ahead` of what follows being taken in after each. -/
def advance (ahead : Nat) : Nat → Cursor → Cursor
  | 0, c => c
  | n + 1, c => advance ahead n (c.skip.need ahead)

/-- The cursor at the start of the next line, if a line break is here. -/
def skipLine (c : Cursor) : Cursor :=
  match c.rest with
  | '\r' :: '\n' :: r =>
    { c with rest := r, line := c.line + 1, column := 0, index := c.index + 2, breaks := c.breaks + 1 }
  | x :: r =>
    if isBreak x then
      { c with rest := r, line := c.line + 1, column := 0, index := c.index + 1,
               breaks := c.breaks + 1 }
    else c
  | [] => c

/-- What a line break stands for: a line feed, or itself if it is a separator. -/
def breakText (c : Cursor) : List Char :=
  match c.rest with
  | x :: _ => if x.toNat = 0x2028 || x.toNat = 0x2029 then [x] else if isBreak x then ['\n'] else []
  | [] => []

/-- The characters that satisfy a predicate, and the cursor after them. -/
def takeWhile (p : Char → Bool) (c : Cursor) : List Char × Cursor :=
  let taken := c.rest.takeWhile p
  (taken, (c.need 1).advance 1 taken.length)

/-- The cursor after the characters that satisfy a predicate. -/
def skipWhile (p : Char → Bool) (c : Cursor) : Cursor := (c.takeWhile p).2

/-- The cursor after spaces and tabs. -/
def skipBlanks (c : Cursor) : Cursor := c.skipWhile isBlank

/-- The cursor at the end of the line. -/
def skipToEnd (c : Cursor) : Cursor := c.skipWhile fun x => !isBreak x

/-- The cursor at the start of the next line, if a line break is here, whose two characters are taken
in. -/
def skipBreak (c : Cursor) : Cursor := if c.breakAt 0 then (c.need 2).skipLine else c

/-- The cursor after a byte order mark at the start of a line. The mark is looked for where the window
starts, and the character that is passed over is the one here. -/
def skipMark (c : Cursor) : Cursor :=
  let c := c.need 1
  if c.column = 0 && c.window.marked then
    if c.atEnd then { c with column := c.column + 1, index := c.index + 1, breaks := 0 } else c.skip
  else c

/-- Whether a line that starts here is a mark between documents: three times the character, and a
gap. -/
def atMark (c : Cursor) (x : Char) : Bool :=
  c.column = 0 && c.sees 0 x && c.sees 1 x && c.sees 2 x && c.gapAt 3

/-- Whether a line that starts here is the start or the end of a document. -/
def atDocumentMark (c : Cursor) : Bool := c.atMark '-' || c.atMark '.'

/-- How far a comment is looked for. -/
def commentReach : Nat := 512

/-- The cursor after a comment on this line, if only blanks stand before it. -/
def skipLineComment (c : Cursor) : Cursor :=
  if c.breaks > 0 then c
  else
    let blanks := (c.rest.takeWhile isBlank).length
    let c := c.need (min (blanks + 1) commentReach)
    if blanks < commentReach && c.sees blanks '#' then c.skipToEnd else c

/-- Moves on through lines until the place `target` is reached. -/
def passMany : Nat → Nat → Cursor → Cursor
  | 0, _, c => c
  | fuel + 1, target, c =>
    let c := c.need 1
    if c.index ≥ target then c
    else if c.breakAt 0 then passMany fuel target c.skipBreak
    else passMany fuel target c.skip

/-- The line breaks that are one byte each. -/
def isShortBreak (c : Char) : Bool := c = '\n' || c = '\r'

/-- The cursor at the end of the last of the comments that start here, each on a line of its own;
blank lines may stand between them, but only ones with short breaks. -/
def skipComments : Nat → Cursor → Cursor
  | 0, c => c
  | fuel + 1, c =>
    let c := c.skipToEnd
    if !c.rest.head?.any isShortBreak then c.need 2
    else
      let gap := 1 + ((c.rest.drop 1).takeWhile fun x => isBlank x || isShortBreak x).length
      let c := c.need (min (if c.breakAt gap then gap + 2 else gap + 1) commentReach)
      if gap < commentReach && c.sees gap '#' then
        skipComments fuel (passMany (gap + 1) (c.index + gap) c)
      else c

end Cursor

end JavaReview.Yaml
