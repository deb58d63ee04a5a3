import JavaReview.Text.Bytes
import JavaReview.Yaml.Text

/-!
Tokens of a YAML text. Blocks are told apart by indentation, so the scanner keeps the columns of the
open blocks; a key is recognised only at the colon after it, so the scanner keeps the places where a
key may have started, one for each level of brackets. A text is scanned only as far as the tokens that
are asked for need it.
-/

namespace JavaReview.Yaml

/-- How a scalar was written. -/
inductive ScalarStyle where
  | plain
  | quoted
deriving DecidableEq, Repr

/-- A token. -/
inductive Token where
  | streamEnd
  | versionDirective (major minor : Nat)
  | tagDirective (handle uri : List Char)
  | documentStart
  | documentEnd
  | blockSequenceStart
  | blockMappingStart
  | blockEnd
  | flowSequenceStart
  | flowSequenceEnd
  | flowMappingStart
  | flowMappingEnd
  | blockEntry
  | flowEntry
  | key
  | value
  | alias (name : List Char)
  | anchor (name : List Char)
  | tag (handle suffix : List Char)
  | scalar (text : List Char) (style : ScalarStyle)
deriving DecidableEq, Repr

/-- A place where a key may have started, with the number of its token. A required key has to be
one; one that is not possible any more is none. -/
structure KeyStart where
  possible : Bool
  required : Bool := false
  token : Nat
  line : Nat := 0
  column : Nat := 0
  index : Nat := 0

/-- The state of a scan: the tokens that were found and not handed out yet, how many were handed out,
the level of brackets, the column of the innermost block and of those around it, whether a key may start
here, and where keys may have started, for the innermost level first. `levels` has the tokens where keys
may have started, each with the level that it was noted for, the outermost one being 0. -/
structure Scanner where
  cursor : Cursor
  queue : List Token := []
  handed : Nat := 0
  flow : Nat := 0
  indent : Int := -1
  outer : List Int := []
  keyAllowed : Bool := true
  keys : List KeyStart := [{ possible := false, token := 0 }]
  levels : List (Nat × Nat) := []

namespace Scanner

/-- One more token. -/
def push (s : Scanner) (t : Token) : Scanner := { s with queue := s.queue ++ [t] }

/-- The number of the next token. -/
def nextNumber (s : Scanner) : Nat := s.handed + s.queue.length

/-- A token put before the one with a number, or at the end if that one was handed out already. -/
def insert (s : Scanner) (number : Nat) (t : Token) : Scanner :=
  if number < s.handed then s.push t
  else
    let pos := number - s.handed
    { s with queue := s.queue.take pos ++ t :: s.queue.drop pos }

/-- Closes the blocks that are indented more than a column; `outer` bounds their number. -/
def closeBlocks (column : Int) : List Int → Scanner → Scanner
  | [], s => s
  | o :: r, s =>
    if s.indent > column then
      closeBlocks column r ({ s with indent := o, outer := r }.push .blockEnd)
    else s

/-- Closes the blocks that are indented more than a column. Inside brackets indentation does not
count. -/
def unroll (s : Scanner) (column : Int) : Scanner :=
  if s.flow > 0 then s else closeBlocks column s.outer s

/-- How deep blocks, and brackets, may be nested. -/
def maxDepth : Nat := 10000

/-- Opens a block at a column that is indented more than the innermost one, with its token before the
one with a number or at the end. -/
def roll (s : Scanner) (column : Nat) (number : Option Nat) (t : Token) : Result Scanner :=
  if s.flow > 0 || s.indent ≥ column then .ok s
  else
    let s := { s with outer := s.indent :: s.outer, indent := column }
    if s.outer.length > maxDepth then fail "exceeded max depth of 10000"
    else
      match number with
      | none => .ok (s.push t)
      | some n => .ok (s.insert n t)

/-- Forgets that a key may have started at a token. -/
def forget (s : Scanner) (token : Nat) : Scanner :=
  { s with levels := s.levels.filter (·.1 ≠ token) }

/-- The innermost place where a key may have started is none any more. -/
def closeKey (s : Scanner) : Scanner :=
  match s.keys with
  | k :: r => { s with keys := { k with possible := false } :: r }.forget k.token
  | [] => s

/-- Forgets where a key may have started. -/
def dropKey (s : Scanner) : Result Scanner :=
  match s.keys with
  | k :: _ =>
    if !k.possible then .ok s
    else if k.required then fail "could not find expected ':'"
    else .ok s.closeKey
  | [] => .ok s

/-- Notes that a key may start here. -/
def saveKey (s : Scanner) : Result Scanner :=
  if s.keyAllowed then do
    let k : KeyStart :=
      { possible := true
        required := s.flow = 0 && s.indent = s.cursor.column
        token := s.nextNumber
        line := s.cursor.line
        column := s.cursor.column
        index := s.cursor.index }
    let s ← s.dropKey
    let s := s.forget k.token
    return { s with keys := k :: s.keys.drop 1, levels := (k.token, s.keys.length - 1) :: s.levels }
  else .ok s

/-- The longest distance between the start of a key and its colon. -/
def maxKeyLength : Nat := 1024

/-- Whether a key may still be one: it has to end on its line, and not too far away. -/
def keyIsPossible (s : Scanner) (k : KeyStart) : Result Bool :=
  if !k.possible then .ok false
  else if k.line < s.cursor.line || k.index + maxKeyLength < s.cursor.index then
    if k.required then fail "could not find expected ':'" else .ok false
  else .ok true

/-- Moves the cursor. -/
def moveTo (s : Scanner) (c : Cursor) : Scanner := { s with cursor := c }

/-- One token for the next characters. -/
def take (s : Scanner) (n : Nat) (t : Token) : Scanner := (s.moveTo (s.cursor.skipMany n)).push t

/-! ## White space -/

/-- Moves on to the next token. Tabs do not count as white space where a key may start. -/
def toNextToken : Nat → Scanner → Scanner
  | 0, s => s
  | fuel + 1, s =>
    let c := s.cursor.skipMark
    let tabs := s.flow > 0 || !s.keyAllowed
    let c := c.skipWhile fun x => x = ' ' || (tabs && x = '\t')
    let c := if c.sees 0 '#' then c.skipComments (c.rest.length + 1) else c
    if c.breakAt 0 then
      toNextToken fuel { s with cursor := c.skipBreak, keyAllowed := s.keyAllowed || s.flow = 0 }
    else { s with cursor := c }

/-! ## Directives, anchors and tags -/

/-- A number of at most two digits. -/
def readVersionNumber (c : Cursor) : Result (Nat × Cursor) :=
  let (ds, c) := c.takeWhile Char.isDigit
  if ds.isEmpty then fail "did not find expected version number"
  else if ds.length > 2 then fail "found extremely long version number"
  else .ok (ds.foldl (fun n d => 10 * n + (d.toNat - 48)) 0, c)

/-- What may stand in the address of a tag, escapes apart. -/
def isUriChar (c : Char) : Bool :=
  isNameChar c || ";/?:@&=+$,.!~*'()[]".toList.contains c

/-- The number of bytes of a character that starts with a byte. -/
def byteCount? (first : Nat) : Option Nat :=
  if first < 0x80 then some 1
  else if first < 0xC0 then none
  else if first < 0xE0 then some 2
  else if first < 0xF0 then some 3
  else if first < 0xF8 then some 4
  else none

/-- Reads an escaped byte: a percent sign and two digits. -/
def readByte (c : Cursor) : Result (Nat × Cursor) :=
  let c := c.need 3
  match c.rest with
  | '%' :: a :: b :: _ =>
    match hexValue? [a, b] with
    | some n => .ok (n, c.skipMany 3)
    | none => fail "did not find URI escaped octet"
  | _ => fail "did not find URI escaped octet"

/-- Reads the escaped bytes of a character after its first. -/
def readLaterBytes : Nat → Cursor → Result (List Nat × Cursor)
  | 0, c => .ok ([], c)
  | n + 1, c => do
    let (b, c) ← readByte c
    if b / 64 ≠ 2 then fail "found an incorrect trailing UTF-8 octet"
    else
      let (bs, c) ← readLaterBytes n c
      return (b :: bs, c)

/-- Reads the escapes of a character. -/
def readEscapedChar (c : Cursor) : Result (List Char × Cursor) := do
  let (first, c) ← readByte c
  match byteCount? first with
  | none => fail "found an incorrect leading UTF-8 octet"
  | some n =>
    let (later, c) ← readLaterBytes (n - 1) c
    return (Text.ofBytes (first :: later), c)

/-- Reads the address of a tag. -/
def readUri : Nat → Cursor → Result (List Char × Cursor)
  | 0, c => .ok ([], c)
  | fuel + 1, c => do
    let c := c.need 1
    match c.rest with
    | x :: _ =>
      if x = '%' then
        let (y, c) ← readEscapedChar c
        let (ys, c) ← readUri fuel c
        return (y ++ ys, c)
      else if isUriChar x then
        let (ys, c) ← readUri fuel c.skip
        return (x :: ys, c)
      else return ([], c)
    | [] => return ([], c)

/-- Reads the handle of a tag. -/
def readHandle (directive : Bool) (c : Cursor) : Result (List Char × Cursor) :=
  let c := c.need 1
  if !c.sees 0 '!' then fail "did not find expected '!'"
  else
    let (name, c) := c.skip.takeWhile isNameChar
    if c.sees 0 '!' then .ok ('!' :: name ++ ['!'], c.skip)
    else if directive && !name.isEmpty then fail "did not find expected '!'"
    else .ok ('!' :: name, c)

/-- Reads a directive, from its percent sign to the start of the next line. -/
def readDirective (c : Cursor) : Result (Token × Cursor) := do
  let (name, c) := c.skip.takeWhile isNameChar
  if name.isEmpty then fail "could not find expected directive name"
  else if !c.gapAt 0 then fail "found unexpected non-alphabetical character"
  else
    let (token, c) ←
      if name = "YAML".toList then do
        let (major, c) ← readVersionNumber c.skipBlanks
        if !c.sees 0 '.' then fail "did not find expected digit or '.' character"
        else
          let (minor, c) ← readVersionNumber c.skip
          pure (Token.versionDirective major minor, c)
      else if name = "TAG".toList then do
        let (handle, c) ← readHandle true c.skipBlanks
        let c := c.need 1
        if !c.blankAt 0 then fail "did not find expected whitespace"
        else
          let c := c.skipBlanks
          let (uri, c) ← readUri (c.rest.length + 1) c
          let c := c.need 1
          if uri.isEmpty then fail "did not find expected tag URI"
          else if !c.gapAt 0 then fail "did not find expected whitespace or line break"
          else pure (Token.tagDirective handle uri, c)
      else fail "found unknown directive name"
    let c := c.skipBlanks
    let c := if c.sees 0 '#' then c.skipToEnd else c
    if c.endAt 0 then return (token, c.skipBreak)
    else fail "did not find expected comment or line break"

/-- Reads the name after the mark of an anchor or an alias. -/
def readAnchor (c : Cursor) : Result (List Char × Cursor) :=
  let (name, c) := c.skip.takeWhile isNameChar
  if name.isEmpty || !(c.gapAt 0 || (c.ahead? 0).any ("?:,]\x7d%@`".toList.contains ·)) then
    fail "did not find expected alphabetic or numeric character"
  else .ok (name, c)

/-- Reads a tag. -/
def readTag (c : Cursor) : Result (Token × Cursor) := do
  let c := c.need 2
  let (token, c) ←
    if c.sees 1 '<' then do
      let (uri, c) ← readUri (c.rest.length + 1) (c.skipMany 2)
      if uri.isEmpty then fail "did not find expected tag URI"
      else if !c.sees 0 '>' then fail "did not find the expected '>'"
      else pure (Token.tag [] uri, c.skip)
    else do
      let (handle, c) ← readHandle false c
      let (uri, c) ← readUri (c.rest.length + 1) c
      if handle.length > 1 && handle.getLast? == some '!' then
        if uri.isEmpty then fail "did not find expected tag URI"
        else pure (Token.tag handle uri, c)
      else
        let suffix := handle.drop 1 ++ uri
        pure (if suffix.isEmpty then Token.tag [] ['!'] else Token.tag ['!'] suffix, c)
  let c := c.need 1
  if c.gapAt 0 then return (token, c) else fail "did not find expected whitespace or line break"

/-! ## Tokens -/

/-- The end of the text, which is on a line of its own. -/
def endStream (s : Scanner) : Result Scanner := do
  let c := s.cursor
  let s := if c.column = 0 then s else s.moveTo { c with column := 0, line := c.line + 1 }
  let s ← (s.unroll (-1)).dropKey
  return ({ s with keyAllowed := false }.push .streamEnd)

/-- A mark between documents. -/
def documentMark (s : Scanner) (t : Token) : Result Scanner := do
  let s ← (s.unroll (-1)).dropKey
  return ({ s with keyAllowed := false }.take 3 t)

/-- A directive. -/
def directive (s : Scanner) : Result Scanner := do
  let s ← (s.unroll (-1)).dropKey
  let (t, c) ← readDirective s.cursor
  return ({ s with keyAllowed := false }.moveTo c).push t

/-- An opening bracket. -/
def openFlow (s : Scanner) (t : Token) : Result Scanner := do
  let s ← s.saveKey
  let inner : KeyStart := { possible := false, token := s.nextNumber }
  let s := { s with flow := s.flow + 1, keys := inner :: s.keys, keyAllowed := true }
  if s.flow > maxDepth then fail "exceeded max depth of 10000" else return s.take 1 t

/-- A closing bracket. -/
def closeFlow (s : Scanner) (t : Token) : Result Scanner := do
  let s ← s.dropKey
  let s :=
    match s.keys with
    | k :: r => if s.flow > 0 then { s with flow := s.flow - 1, keys := r }.forget k.token else s
    | [] => s
  return ({ s with keyAllowed := false }.take 1 t)

/-- A comma between brackets. -/
def flowEntry (s : Scanner) : Result Scanner := do
  let s ← s.dropKey
  return ({ s with keyAllowed := true }.take 1 .flowEntry)

/-- A dash. -/
def blockEntry (s : Scanner) : Result Scanner := do
  if s.flow = 0 && !s.keyAllowed then
    fail "block sequence entries are not allowed in this context"
  else
    let s ← s.roll s.cursor.column none .blockSequenceStart
    let s ← s.dropKey
    return ({ s with keyAllowed := true }.take 1 .blockEntry)

/-- A question mark. -/
def explicitKey (s : Scanner) : Result Scanner := do
  if s.flow = 0 && !s.keyAllowed then fail "mapping keys are not allowed in this context"
  else
    let s ← s.roll s.cursor.column none .blockMappingStart
    let s ← s.dropKey
    return ({ s with keyAllowed := s.flow = 0 }.take 1 .key)

/-- A colon after what may be a key. -/
def valueAfter (s : Scanner) (k : KeyStart) : Result Scanner := do
  if ← s.keyIsPossible k then
    let s ← (s.insert k.token .key).roll k.column (some k.token) .blockMappingStart
    return ({ s.closeKey with keyAllowed := false }.take 1 .value)
  else if s.flow = 0 && !s.keyAllowed then fail "mapping values are not allowed in this context"
  else
    let s := { s with keys := { k with possible := false } :: s.keys.drop 1 }
    let s ← s.roll s.cursor.column none .blockMappingStart
    return ({ s with keyAllowed := s.flow = 0 }.take 1 .value)

/-- A colon. -/
def value (s : Scanner) : Result Scanner :=
  s.valueAfter (s.keys.headD { possible := false, token := 0 })

/-- An anchor or an alias. -/
def anchor (s : Scanner) (make : List Char → Token) : Result Scanner := do
  let s ← s.saveKey
  let (name, c) ← readAnchor s.cursor
  return ({ s with keyAllowed := false }.moveTo c).push (make name)

/-- A tag. -/
def tag (s : Scanner) : Result Scanner := do
  let s ← s.saveKey
  let (t, c) ← readTag s.cursor
  return ({ s with keyAllowed := false }.moveTo c).push t

/-- A block scalar. -/
def block (s : Scanner) (literal : Bool) : Result Scanner := do
  let s ← s.dropKey
  let (text, c) ← readBlock literal s.indent s.cursor.skip
  return ({ s with keyAllowed := true }.moveTo c).push (.scalar text .quoted)

/-- A quoted scalar. -/
def quoted (s : Scanner) (single : Bool) : Result Scanner := do
  let s ← s.saveKey
  let c := s.cursor.skip
  let (text, c) ← readQuoted single (c.rest.length + 1) [] c
  return ({ s with keyAllowed := false }.moveTo c).push (.scalar text .quoted)

/-- A plain scalar. -/
def plain (s : Scanner) : Result Scanner := do
  let s ← s.saveKey
  let c := s.cursor
  let (text, c, newLine) ← readPlain (s.flow > 0) (s.indent + 1).toNat (c.rest.length + 1) [] {} c
  return ({ s with keyAllowed := newLine }.moveTo c).push (.scalar text .plain)

/-- Whether a plain scalar can start here. -/
def startsPlain (s : Scanner) (x : Char) : Bool :=
  !(isBlank x || isBreak x || "-?:,[]\x7b\x7d#&*!|>'\"%@`".toList.contains x) ||
    (x = '-' && !s.cursor.blankAt 1) ||
    (s.flow = 0 && (x = '?' || x = ':') && !s.cursor.gapAt 1)

/-- The token that starts with a character, marks between documents and directives apart. -/
def content (s : Scanner) (x : Char) : Result Scanner :=
  let inFlow : Bool := s.flow > 0
  if x = '[' then s.openFlow .flowSequenceStart
  else if x = '\x7b' then s.openFlow .flowMappingStart
  else if x = ']' then s.closeFlow .flowSequenceEnd
  else if x = '\x7d' then s.closeFlow .flowMappingEnd
  else if x = ',' then s.flowEntry
  else if x = '-' && s.cursor.gapAt 1 then s.blockEntry
  else if x = '?' && (inFlow || s.cursor.gapAt 1) then s.explicitKey
  else if x = ':' && (inFlow || s.cursor.gapAt 1) then s.value
  else if x = '*' then s.anchor .alias
  else if x = '&' then s.anchor .anchor
  else if x = '!' then s.tag
  else if x = '|' && !inFlow then s.block true
  else if x = '>' && !inFlow then s.block false
  else if x = '\'' then s.quoted true
  else if x = '"' then s.quoted false
  else if s.startsPlain x then s.plain
  else fail "found character that cannot start any token"

/-- Passes over a comment after the last token, unless that is a dash. -/
def passComment (s : Scanner) : Scanner :=
  if s.queue.getLast? = some .blockEntry then s else s.moveTo s.cursor.skipLineComment

/-- The scan after the next token. -/
def next (s : Scanner) : Result Scanner :=
  let s := toNextToken (s.cursor.rest.length + 1) (s.moveTo (s.cursor.need 1))
  let s := s.unroll s.cursor.column
  let s := s.moveTo (s.cursor.need 4)
  match s.cursor.rest with
  | [] => s.endStream
  | x :: _ =>
    if s.cursor.column = 0 && x = '%' then s.directive
    else if s.cursor.atMark '-' then s.documentMark .documentStart
    else if s.cursor.atMark '.' then s.documentMark .documentEnd
    else (s.content x).map passComment

/-- Whether the next token can be handed out: there are two more after it, and it does not start what
may turn out to be a key. -/
def isReady (s : Scanner) : Result (Bool × Scanner) :=
  if s.queue.length < 3 then .ok (false, s)
  else
    match s.levels.lookup s.handed with
    | none => .ok (true, s)
    | some level =>
      let place := s.keys.length - 1 - level
      match s.keys[place]? with
      | none => .ok (true, s)
      | some k => do
        if ← s.keyIsPossible k then return (false, s)
        else return (true, { s with keys := s.keys.set place { k with possible := false } })

/-- Scans on until the next token can be handed out. Every token takes a character, but for those at
the end of the text, of which three are enough. -/
def fetch : Nat → Scanner → Result Scanner
  | 0, s => .ok s
  | fuel + 1, s => do
    let (ready, s) ← s.isReady
    if ready then return s
    else
      let s ← s.next
      if s.cursor.window.broken then fail "control characters are not allowed" else fetch fuel s

/-- The next token, and the scan with it still to be handed out. -/
def peek (s : Scanner) : Result (Token × Scanner) := do
  let s ← fetch (s.cursor.rest.length + 4) s
  match s.queue with
  | t :: _ => return (t, s)
  | [] => fail "found no token"

/-- The scan after the next token was handed out. -/
def hand (s : Scanner) : Scanner := { s with queue := s.queue.drop 1, handed := s.handed + 1 }

/-- The start of a scan. -/
def ofText (text : List Char) : Scanner := { cursor := .ofText text }

end Scanner

end JavaReview.Yaml
