import JavaReview.Text.Unicode.Ranges
import JavaReview.Yaml.Cursor

/-!
The scalars of a YAML text: plain, between quotes, and blocks of lines. All of them join lines by the
same rule: one line break becomes a space, and of several the first is dropped.
-/

namespace JavaReview.Yaml

/-! ## Gaps between words -/

/-- The white space between words: the blanks before the first line break, what that break stands
for, and what further breaks stand for. -/
structure Gap where
  blanks : List Char := []
  first : Option (List Char) := none
  more : List Char := []

namespace Gap

/-- What a gap stands for. -/
def text (g : Gap) : List Char :=
  match g.first with
  | none => g.blanks
  | some b => if b = ['\n'] then (if g.more.isEmpty then [' '] else g.more) else b ++ g.more

/-- Reads a gap. Tabs before the column `indent` are refused on a new line. -/
def read (indent : Nat) : Nat → Gap → Cursor → Result (Gap × Cursor)
  | 0, g, c => .ok (g, c)
  | fuel + 1, g, c =>
    let c := c.need 1
    if c.blankAt 0 then
      if g.first.isSome && c.column < indent && c.sees 0 '\t' then
        fail "found a tab character that violates indentation"
      else
        let g := if g.first.isSome then g else { g with blanks := g.blanks ++ c.rest.take 1 }
        read indent fuel g c.skip
    else if c.breakAt 0 then
      let g := match g.first with
        | none => { g with blanks := [], first := some c.breakText }
        | some _ => { g with more := g.more ++ c.breakText }
      read indent fuel g c.skipBreak
    else .ok (g, c)

end Gap

/-! ## Plain scalars -/

/-- Whether a plain scalar ends before a character, given what follows it. -/
def endsPlain (flow : Bool) (x : Char) (r : List Char) : Bool :=
  isBlank x || isBreak x ||
    (x = ':' && r.head?.all fun y => isBlank y || isBreak y) ||
    (flow && (x = ',' || x = '?' || x = '[' || x = ']' || x = '\x7b' || x = '\x7d'))

/-- The characters of a plain scalar up to the next gap. -/
def plainRun (flow : Bool) : List Char → List Char
  | [] => []
  | x :: r => if endsPlain flow x r then [] else x :: plainRun flow r

/-- Reads a plain scalar: its text, the cursor after it, and whether it ends on a later line than its
last word. `done` was read before the gap `gap`. -/
def readPlain (flow : Bool) (indent : Nat) : Nat → List Char → Gap → Cursor →
    Result (List Char × Cursor × Bool)
  | 0, done, gap, c => .ok (done, c, gap.first.isSome)
  | fuel + 1, done, gap, c =>
    let c := c.need 4
    if c.atDocumentMark || c.sees 0 '#' then .ok (done, c, gap.first.isSome)
    else
      let run := plainRun flow c.rest
      let (done, gap) := if run.isEmpty then (done, gap) else (done ++ gap.text ++ run, {})
      let c := c.advance 2 run.length
      if !(c.blankAt 0 || c.breakAt 0) then .ok (done, c, gap.first.isSome)
      else
        match Gap.read indent (c.rest.length + 1) gap c with
        | .error e => .error e
        | .ok (gap, c) =>
          if !flow && c.column < indent then .ok (done, c, gap.first.isSome)
          else readPlain flow indent fuel done gap c

/-! ## Quoted scalars -/

/-- What a character after a backslash stands for. -/
def simpleEscape? (x : Char) : Option Nat :=
  match x with
  | '0' => some 0x00 | 'a' => some 0x07 | 'b' => some 0x08 | 't' => some 0x09 | '\t' => some 0x09
  | 'n' => some 0x0A | 'v' => some 0x0B | 'f' => some 0x0C | 'r' => some 0x0D | 'e' => some 0x1B
  | ' ' => some 0x20 | '"' => some 0x22 | '\'' => some 0x27 | '/' => some 0x2F | '\\' => some 0x5C
  | 'N' => some 0x85 | '_' => some 0xA0 | 'L' => some 0x2028 | 'P' => some 0x2029
  | _ => none

/-- The number of hexadecimal digits after a letter. -/
def codeLength? (x : Char) : Option Nat :=
  match x with
  | 'x' => some 2 | 'u' => some 4 | 'U' => some 8
  | _ => none

/-- The number that hexadecimal digits write. -/
def hexValue? (ds : List Char) : Option Nat :=
  ds.foldlM (fun n d => (Text.Unicode.hexDigit? d).map (16 * n + ·)) 0

/-- Reads an escape of a double-quoted scalar: what it stands for and the cursor after it. -/
def readEscape (c : Cursor) : Result (Char × Cursor) :=
  match c.rest with
  | _ :: x :: r =>
    let c := c.skipMany 2
    match simpleEscape? x, codeLength? x with
    | some n, _ => .ok (Char.ofNat n, c)
    | none, none => fail "found unknown escape character"
    | none, some len =>
      match if r.length < len then none else hexValue? (r.take len) with
      | none => fail "did not find expected hexdecimal number"
      | some n =>
        if (0xD800 ≤ n && n ≤ 0xDFFF) || n > 0x10FFFF then
          fail "found invalid Unicode character escape code"
        else .ok (Char.ofNat n, (c.need len).skipMany len)
  | _ => fail "found unknown escape character"

/-- Reads the characters of a quoted scalar up to the next gap or its end: their text, last first, the
cursor, and whether an escaped line break ended them. -/
def quotedRun (single : Bool) : Nat → List Char → Cursor → Result (List Char × Cursor × Bool)
  | 0, done, c => .ok (done, c, false)
  | fuel + 1, done, c =>
    let c := c.need 2
    match c.rest with
    | [] => .ok (done, c, false)
    | x :: r =>
      if isBlank x || isBreak x then .ok (done, c, false)
      else if single then
        if x = '\'' then
          if r.head? == some '\'' then quotedRun single fuel ('\'' :: done) c.skip.skip
          else .ok (done, c, false)
        else quotedRun single fuel (x :: done) c.skip
      else if x = '"' then .ok (done, c, false)
      else if x = '\\' then
        if r.head?.any isBreak then .ok (done, (c.need 3).skip.skipLine, true)
        else
          match readEscape c with
          | .error e => .error e
          | .ok (y, c) => quotedRun single fuel (y :: done) c
      else quotedRun single fuel (x :: done) c.skip

/-- Reads a quoted scalar after its opening quote; `done` is its text so far, last character first. -/
def readQuoted (single : Bool) : Nat → List Char → Cursor → Result (List Char × Cursor)
  | 0, _, _ => fail "found unexpected end of stream"
  | fuel + 1, done, c =>
    let c := c.need 4
    if c.atDocumentMark then fail "found unexpected document indicator"
    else if c.atEnd then fail "found unexpected end of stream"
    else
      match quotedRun single (c.rest.length + 1) done c with
      | .error e => .error e
      | .ok (done, c, escaped) =>
        let c := c.need 1
        if c.sees 0 (if single then '\'' else '"') then .ok (done.reverse, c.skip)
        else
          match Gap.read 0 (c.rest.length + 1) { first := if escaped then some [] else none } c with
          | .error e => .error e
          | .ok (gap, c) => readQuoted single fuel (gap.text.reverse ++ done) c

/-! ## Block scalars -/

/-- What happens to the line breaks at the end of a block. -/
inductive Chomping where
  | strip
  | clip
  | keep
deriving DecidableEq, Repr

/-- The chomping that a mark asks for. -/
def chomping? (c : Cursor) : Option Chomping :=
  if c.sees 0 '+' then some .keep else if c.sees 0 '-' then some .strip else none

/-- The indentation that a digit asks for. -/
def increment? (c : Cursor) : Result (Option Nat) :=
  match c.ahead? 0 with
  | some d =>
    if d = '0' then fail "found an indentation indicator equal to 0"
    else .ok (if d.isDigit then some (d.toNat - 48) else none)
  | none => .ok none

/-- Reads the header of a block after its mark: the chomping, the indentation asked for, and the
cursor at the start of the next line. -/
def readBlockHeader (c : Cursor) : Result (Chomping × Option Nat × Cursor) := do
  let c := c.need 1
  let (chomp, inc, c) ←
    match chomping? c with
    | some k => do
      let c := c.skip.need 1
      let inc ← increment? c
      pure (k, inc, if inc.isSome then c.skip else c)
    | none => do
      match ← increment? c with
      | none => pure (.clip, none, c)
      | some n =>
        let c := c.skip.need 1
        match chomping? c with
        | some k => pure (k, some n, c.skip)
        | none => pure (.clip, some n, c)
  let c := c.skipBlanks
  let c := if c.sees 0 '#' then c.skipLineComment.skipToEnd else c
  if c.endAt 0 then return (chomp, inc, c.skipBreak)
  else fail "did not find expected comment or line break"

/-- Reads the indentation of the next line of a block and the empty lines before it: what their
breaks stand for, the widest indentation, and the cursor. The indentation is not known yet if it is
0. -/
def blockBreaks (indent : Nat) : Nat → List Char → Nat → Cursor → Result (List Char × Nat × Cursor)
  | 0, breaks, widest, c => .ok (breaks, widest, c)
  | fuel + 1, breaks, widest, c =>
    let spaces := (c.rest.takeWhile (· == ' ')).length
    let c := (c.need 1).advance 1 (if indent = 0 then spaces else min spaces (indent - c.column))
    let widest := max widest c.column
    if (indent = 0 || c.column < indent) && c.sees 0 '\t' then
      fail "found a tab character where an indentation space is expected"
    else if c.breakAt 0 then blockBreaks indent fuel (breaks ++ c.breakText) widest c.skipBreak
    else .ok (breaks, widest, c)

/-- Reads the lines of a block: the text, the break after its last line, the breaks after that, and
the cursor. `lead` is the break before the current line, `trail` are the ones after that, and
`blank` tells whether the line before started with a blank. -/
def blockLines (literal : Bool) (indent : Nat) : Nat → List Char → List Char → List Char → Bool →
    Cursor → Result (List Char × List Char × List Char × Cursor)
  | 0, done, lead, trail, _, c => .ok (done, lead, trail, c)
  | fuel + 1, done, lead, trail, blank, c =>
    let c := c.need 1
    if c.column ≠ indent || c.atEnd then .ok (done, lead, trail, c)
    else
      let startsBlank := c.blankAt 0
      let joined :=
        if !literal && !blank && !startsBlank && lead = ['\n'] then
          (if trail.isEmpty then [' '] else [])
        else lead
      let (text, c) := c.takeWhile fun x => !isBreak x
      let done := done ++ joined ++ trail ++ text
      match blockBreaks indent (c.rest.length + 1) [] 0 (c.need 2).skipLine with
      | .error e => .error e
      | .ok (trail, _, next) => blockLines literal indent fuel done c.breakText trail startsBlank next

/-- Reads a block scalar after its mark. `outer` is the indentation around it. -/
def readBlock (literal : Bool) (outer : Int) (c : Cursor) : Result (List Char × Cursor) := do
  let (chomp, inc, c) ← readBlockHeader c
  let given := match inc with
    | none => 0
    | some n => (if outer ≥ 0 then outer + n else n).toNat
  let (trail, widest, c) ← blockBreaks given (c.rest.length + 1) [] 0 c
  let indent := if given = 0 then max (max widest (outer + 1).toNat) 1 else given
  let (text, lead, trail, c) ← blockLines literal indent (c.rest.length + 1) [] [] trail false c
  return (match chomp with
    | .strip => text
    | .clip => text ++ lead
    | .keep => text ++ lead ++ trail, c)

end JavaReview.Yaml
