import JavaReview.Pattern.Reading
import JavaReview.Text.Search

/-!
Reading patterns. The text is read from left to right with a stack of open groups; an error names the
part of the text that is at fault.
-/

namespace JavaReview

namespace Pattern

/-- The words for an error. -/
def ErrorKind.text : ErrorKind → String
  | charRange => "invalid character class range"
  | escape => "invalid escape sequence"
  | namedCapture => "invalid named capture"
  | unsupported => "invalid or unsupported Perl syntax"
  | nestedRepeat => "invalid nested repetition operator"
  | repeatCount => "invalid repeat count"
  | missingBracket => "missing closing ]"
  | missingParen => "missing closing )"
  | missingOperand => "missing argument to repetition operator"
  | trailingBackslash => "trailing backslash at end of expression"
  | unexpectedParen => "unexpected )"
  | nesting => "expression nests too deeply"
  | large => "expression too large"

/-- An error and the part of the text that is at fault. -/
structure Error where
  kind : ErrorKind
  part : List Char
deriving DecidableEq, Repr

/-- The text of an error. -/
def Error.message (e : Error) : String :=
  "error parsing regexp: " ++ e.kind.text ++ ": `" ++ String.ofList e.part ++ "`"

/-- What a text has before one of its ends. -/
def consumed (s rest : List Char) : List Char := s.take (s.length - rest.length)

/-! ## Single characters -/

/-- Up to `n` more octal digits onto a value. -/
def octal : Nat → Nat → List Char → Nat × List Char
  | n + 1, v, c :: r => if '0' ≤ c && c ≤ '7' then octal n (8 * v + (c.toNat - 48)) r else (v, c :: r)
  | _, v, s => (v, s)

/-- The hexadecimal digits up to a closing brace, onto a value; an error is the text where reading
stopped. -/
def bracedHex (found : Bool) (v : Nat) : List Char → Except (List Char) (Nat × List Char)
  | [] => .error []
  | c :: r =>
    if c = '\x7d' then (if found then .ok (v, r) else .error r)
    else
      match Text.Unicode.hexDigit? c with
      | none => .error r
      | some d => if 16 * v + d > 0x10FFFF then .error r else bracedHex true (16 * v + d) r

/-- The code point of a hexadecimal escape, after its `x`. -/
def hexEscape : List Char → Except (List Char) (Nat × List Char)
  | [] => .error []
  | '\x7b' :: r => bracedHex false 0 r
  | [_] => .error []
  | a :: b :: r =>
    match Text.Unicode.hexDigit? a, Text.Unicode.hexDigit? b with
    | some x, some y => .ok (16 * x + y, r)
    | _, _ => .error r

/-- The code point of an escape, after its backslash; an error is the text where reading stopped. -/
def escapeValue (c : Char) (r : List Char) : Except (List Char) (Nat × List Char) :=
  if c = '0' then .ok (octal 2 0 r)
  else if '1' ≤ c && c ≤ '7' then
    match r with
    | d :: _ => if '0' ≤ d && d ≤ '7' then .ok (octal 2 (c.toNat - 48) r) else .error r
    | [] => .error r
  else
    match c with
    | 'x' => hexEscape r
    | 'a' => .ok (7, r)
    | 'f' => .ok (12, r)
    | 'n' => .ok (10, r)
    | 'r' => .ok (13, r)
    | 't' => .ok (9, r)
    | 'v' => .ok (11, r)
    | _ => if c.toNat < 0x80 && !c.isAlphanum then .ok (c.toNat, r) else .error r

/-- Reads an escape of one character, which starts with its backslash. -/
def readEscape (s : List Char) : Except Error (Nat × List Char) :=
  match s with
  | _ :: c :: r =>
    match escapeValue c r with
    | .ok v => .ok v
    | .error rest => .error ⟨.escape, consumed s rest⟩
  | _ => .error ⟨.trailingBackslash, []⟩

/-- Reads a Unicode property after `\p` or `\P`. -/
def readProperty (s : List Char) (negated : Bool) (r : List Char) :
    Except Error (CharGroup × List Char) :=
  let found (name seq rest : List Char) : Except Error (CharGroup × List Char) :=
    let (name, flip) := match name with
      | '^' :: n => (n, true)
      | n => (n, false)
    match property? name with
    | none => .error ⟨.charRange, seq⟩
    | some g => .ok ({ g with negated := g.negated != (negated != flip) }, rest)
  match r with
  | [] => found [] s []
  | '\x7b' :: t =>
    match Text.after? '\x7d' t with
    | none => .error ⟨.charRange, s⟩
    | some rest => found (t.take (t.length - rest.length - 1)) (consumed s rest) rest
  | c :: t => found [c] (consumed s t) t

/-- Reads an escape that stands for a group of characters, if the text starts with one. -/
def readGroupEscape? (s : List Char) : Option (Except Error (CharGroup × List Char)) :=
  match s with
  | '\\' :: c :: r =>
    if c = 'p' then some (readProperty s false r)
    else if c = 'P' then some (readProperty s true r)
    else (escapeGroup? c).map fun g => .ok (g, r)
  | _ => none

/-! ## Classes -/

/-- Reads a group with a name between colons, if the text starts with one. -/
def readNamedGroup? (s : List Char) : Option (Except Error (CharGroup × List Char)) :=
  match s with
  | '[' :: ':' :: r =>
    match nameEnd r with
    | none => none
    | some (name, rest) => some <|
      match namedGroup? name with
      | none => .error ⟨.charRange, consumed s rest⟩
      | some g => .ok (g, rest)
  | _ => none
where
  /-- What stands before the first `:]`, and after it. -/
  nameEnd : List Char → Option (List Char × List Char)
    | ':' :: ']' :: r => some ([], r)
    | c :: r => (nameEnd r).map fun (n, t) => (c :: n, t)
    | [] => none

/-- Reads one character of a class. -/
def readClassChar (whole s : List Char) : Except Error (Nat × List Char) :=
  match s with
  | [] => .error ⟨.missingBracket, whole⟩
  | '\\' :: _ => readEscape s
  | c :: r => .ok (c.toNat, r)

/-- Reads a character or a range of a class. -/
def readClassRange (whole s : List Char) : Except Error (CharGroup × List Char) :=
  match readClassChar whole s with
  | .error e => .error e
  | .ok (lo, t) =>
    match t with
    | '-' :: d :: r =>
      if d = ']' then .ok ({ ranges := .span lo lo }, t)
      else
        match readClassChar whole (d :: r) with
        | .error e => .error e
        | .ok (hi, t) =>
          if hi < lo then .error ⟨.charRange, consumed s t⟩ else .ok ({ ranges := .span lo hi }, t)
    | _ => .ok ({ ranges := .span lo lo }, t)

/-- Reads one part of a class. -/
def readClassItem (whole s : List Char) : Except Error (CharGroup × List Char) :=
  match readNamedGroup? s with
  | some r => r
  | none =>
    match readGroupEscape? s with
    | some r => r
    | none => readClassRange whole s

/-- Reads the parts of a class and its closing bracket, which cannot come first. -/
def readClassItems (whole : List Char) : Nat → Bool → List CharGroup → List Char →
    Except Error (List CharGroup × List Char)
  | 0, _, _, _ => .error ⟨.missingBracket, whole⟩
  | fuel + 1, first, done, s =>
    match s with
    | ']' :: r =>
      if first then
        match readClassItem whole s with
        | .error e => .error e
        | .ok (g, t) => readClassItems whole fuel false (g :: done) t
      else .ok (done.reverse, r)
    | _ =>
      match readClassItem whole s with
      | .error e => .error e
      | .ok (g, t) => readClassItems whole fuel false (g :: done) t

/-- Reads a class, which starts with its bracket. -/
def readClass (ignoreCase : Bool) (s : List Char) : Except Error (Text.Unicode.Ranges × List Char) :=
  let (negated, body) := match s.drop 1 with
    | '^' :: r => (true, r)
    | r => (false, r)
  match readClassItems s (s.length + 1) true [] body with
  | .error e => .error e
  | .ok (groups, rest) => .ok (classOf ignoreCase negated groups, rest)

/-! ## Repetitions -/

/-- Reads a number without leading zeros. -/
def readCount? (s : List Char) : Option (Nat × List Char) :=
  match s.takeWhile Char.isDigit with
  | [] => none
  | ds =>
    if ds.head? = some '0' && ds.length > 1 then none
    else some (ds.foldl (fun n d => 10 * n + (d.toNat - 48)) 0, s.dropWhile Char.isDigit)

/-- Reads the bounds of a repetition after its brace: the least number, and the greatest if there is
one. -/
def readBounds? (s : List Char) : Option (Nat × Option Nat × List Char) :=
  match readCount? s with
  | none => none
  | some (min, '\x7d' :: r) => some (min, some min, r)
  | some (min, ',' :: '\x7d' :: r) => some (min, none, r)
  | some (min, ',' :: r) =>
    match readCount? r with
    | some (max, '\x7d' :: r) => some (min, some max, r)
    | _ => none
  | some _ => none

/-! ## Parts -/

/-- A step of reading, whose limits are those of the whole text. -/
abbrev Read := StateT Reading (Except Error)

/-- A step that puts trees together; an error is at fault with a part of the text. -/
def build {α : Type} (part : List Char) (b : Build α) : Read α := fun st =>
  match b st with
  | .ok r => .ok r
  | .error kind => .error ⟨kind, part⟩

/-- The text after a mark that turns greed around, and whether there is one. -/
def dropLazy : List Char → List Char × Bool
  | '?' :: r => (r, true)
  | r => (r, false)

/-- Repeats the last item. `s` starts with the operator, `after` follows it, and `last` starts with
the operator right before it, if there is one. Gives the operator and what follows it. -/
def repeatLast (whole last s after : List Char) (op : Bool → Op) : Read (List Char × List Char) := do
  let (after, flip) := dropLazy after
  if !last.isEmpty then throw ⟨.nestedRepeat, consumed last after⟩
  let st ← get
  match Build.repeatTop (op (st.flags.ungreedy != flip)) st with
  | .ok (_, st) =>
    set st
    return (s, after)
  | .error kind =>
    let limit := kind = .nesting || kind = .large
    throw ⟨kind, if limit then whole else consumed s after⟩

/-- Whether a text can name a capture. -/
def isCaptureName (name : List Char) : Bool :=
  !name.isEmpty && name.all fun c => c.isAlphanum || c = '_'

/-- Reads a named capture, whose name starts at `r`. -/
def readCapture (whole s r : List Char) : Read (List Char) := do
  match Text.after? '>' r with
  | none => throw ⟨.namedCapture, s⟩
  | some rest =>
    if isCaptureName (r.take (r.length - rest.length - 1)) then
      build whole (Build.openGroup true)
      return rest
    else throw ⟨.namedCapture, consumed s rest⟩

/-- Reads flags up to the mark that ends them: the flags, whether they open a group, and what follows.
`on` tells whether flags are set or cleared, and `seen` whether one was named since that was last
decided. -/
def readFlags (s : List Char) (flags : Flags) (on seen : Bool) :
    List Char → Except Error (Flags × Bool × List Char)
  | [] => .error ⟨.unsupported, s⟩
  | c :: r =>
    let fail : Except Error (Flags × Bool × List Char) := .error ⟨.unsupported, consumed s r⟩
    match c with
    | 'i' => readFlags s { flags with ignoreCase := on } on true r
    | 'm' => readFlags s { flags with multiLine := on } on true r
    | 's' => readFlags s { flags with dotAll := on } on true r
    | 'U' => readFlags s { flags with ungreedy := on } on true r
    | '-' => if on then readFlags s flags false false r else fail
    | ':' => if on || seen then .ok (flags, true, r) else fail
    | ')' => if on || seen then .ok (flags, false, r) else fail
    | _ => fail

/-- Reads what starts with an opening parenthesis. -/
def readParen (whole s : List Char) : Read (List Char) := do
  match s with
  | '(' :: '?' :: 'P' :: '<' :: x :: t => readCapture whole s (x :: t)
  | '(' :: '?' :: '<' :: x :: t => readCapture whole s (x :: t)
  | '(' :: '?' :: r =>
    let (flags, opens, rest) ← readFlags s (← get).flags true false r
    if opens then build whole (Build.openGroup false)
    modify fun st => { st with flags }
    return rest
  | _ =>
    build whole (Build.openGroup true)
    return s.drop 1

/-- The text before the first `\E`, and after it. -/
def quotedEnd : List Char → List Char × List Char
  | '\\' :: 'E' :: r => ([], r)
  | c :: r => let (q, t) := quotedEnd r; (c :: q, t)
  | [] => ([], [])

/-- Reads what starts with a backslash. -/
def readBackslash (whole s : List Char) : Read (List Char) := do
  let put (op : Op) (r : List Char) : Read (List Char) := do
    build whole (Build.pushLeaf op)
    return r
  match s with
  | _ :: 'A' :: r => put (.assert .textStart) r
  | _ :: 'b' :: r => put (.assert .wordBoundary) r
  | _ :: 'B' :: r => put (.assert .notWordBoundary) r
  | b :: 'C' :: _ => throw ⟨.escape, [b, 'C']⟩
  | _ :: 'Q' :: r =>
    let (q, t) := quotedEnd r
    q.forM fun c => build whole (Build.literal c.toNat)
    return t
  | _ :: 'z' :: r => put (.assert .textEnd) r
  | _ =>
    match readGroupEscape? s with
    | some (.error e) => throw e
    | some (.ok (g, r)) => put (.oneOf (classOf (← get).flags.ignoreCase false [g])) r
    | none =>
      let cell ← build whole Build.newCell
      build whole (Build.giveBack (.leaf cell .empty))
      let (n, r) ← readEscape s
      build whole (Build.literal n)
      return r

/-- Reads a repetition with bounds, or a brace that stands for itself. -/
def readBraces (whole last s : List Char) : Read (List Char × List Char) := do
  match readBounds? (s.drop 1) with
  | none =>
    build whole (Build.literal '\x7b'.toNat)
    return ([], s.drop 1)
  | some (min, max, r) =>
    let tooMany := min > Build.maxRepeats || max.any fun m => m > Build.maxRepeats || min > m
    if tooMany then throw ⟨.repeatCount, consumed s r⟩
    repeatLast whole last s r (.repeated min max)

/-- Reads the next part of a pattern: the text from a repetition operator on if that is what was read,
and what follows. -/
def readPart (whole last : List Char) (c : Char) (r : List Char) : Read (List Char × List Char) := do
  let s := c :: r
  let flags := (← get).flags
  let put (op : Op) : Read (List Char × List Char) := do
    build whole (Build.pushLeaf op)
    return ([], r)
  match c with
  | '(' => return ([], ← readParen whole s)
  | '|' =>
    build whole Build.bar
    return ([], r)
  | ')' =>
    build whole (Build.closeGroup whole.length)
    return ([], r)
  | '^' => put (.assert (if flags.multiLine then .lineStart else .textStart))
  | '$' => put (.assert (if flags.multiLine then .lineEnd else .textEnd))
  | '.' => put (if flags.dotAll then .any else .notNewline)
  | '[' =>
    let cell ← build whole Build.newCell
    let (set, t) ← readClass flags.ignoreCase s
    build whole (Build.push (.leaf cell (.oneOf set)))
    return ([], t)
  | '*' => repeatLast whole last s r .star
  | '+' => repeatLast whole last s r .plus
  | '?' => repeatLast whole last s r .opt
  | '\x7b' => readBraces whole last s
  | '\\' => return ([], ← readBackslash whole s)
  | _ =>
    build whole (Build.literal c.toNat)
    return ([], r)

/-- Reads the parts of a pattern; every part takes a character at least. -/
def readParts (whole : List Char) : Nat → List Char → List Char → Read Unit
  | _, _, [] => return ()
  | 0, _, _ => return ()
  | fuel + 1, last, c :: r => do
    let (last, t) ← readPart whole last c r
    readParts whole fuel last t

/-- Reads a pattern. -/
def parse (s : List Char) : Except Error Tree := do
  let read : Read Unit := do
    readParts s s.length [] s
    build s (Build.endAlternatives s.length)
  match (← read.run {}).2.stack with
  | [t] => return t
  | _ => throw ⟨.missingParen, s⟩

end Pattern

end JavaReview
