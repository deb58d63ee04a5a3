import JavaReview.Text.Base64
import JavaReview.Text.Binary64
import JavaReview.Text.Bytes
import JavaReview.Text.Search
import JavaReview.Time.Calendar
import JavaReview.Yaml.Node

/-!
What the scalars of a YAML text stand for. A plain scalar without a tag is resolved by its spelling;
a tag asks for a type, and the spelling has to fit it.
-/

namespace JavaReview.Yaml

/-- What a scalar stands for. -/
inductive Value where
  | null
  | bool (b : Bool)
  | int (n : Int)
  | real (x : Binary64)
  | text (s : List Char)

namespace Value

/-! ## Numbers -/

/-- The value of a digit, up to a base. -/
def digit? (base : Nat) (c : Char) : Option Nat :=
  let v :=
    if c.isDigit then c.toNat - 48
    else if c.isLower then c.toNat - 87
    else if c.isUpper then c.toNat - 55
    else base
  if v < base then some v else none

/-- The number that digits write in a base. -/
def inBase? (base : Nat) (ds : List Char) : Option Nat :=
  ds.foldlM (fun n d => (digit? base d).map (base * n + ·)) 0

/-- A number without sign: hexadecimal, octal or binary by its first characters, or decimal. -/
def unsigned? (s : List Char) : Option Nat :=
  match s with
  | [] => none
  | '0' :: x :: d :: r =>
    if x = 'b' || x = 'B' then inBase? 2 (d :: r)
    else if x = 'o' || x = 'O' then inBase? 8 (d :: r)
    else if x = 'x' || x = 'X' then inBase? 16 (d :: r)
    else inBase? 8 (x :: d :: r)
  | '0' :: r => inBase? 8 r
  | r => inBase? 10 r

/-- The integer of 64 bits with sign that a sign and a magnitude make. -/
def word? (negative : Bool) (n : Nat) : Option Int :=
  let i : Int := if negative then -n else n
  if fitsWord i then some i else none

/-- An integer with the mark of its base, the sign being after the mark. -/
def marked? (base : Nat) (digits : List Char) : Option Int :=
  let (neg, ds) := splitSign digits
  if ds.isEmpty then none else (inBase? base ds).bind (word? neg)

/-- The integer that a plain scalar writes: with sign below 2^63, without sign below 2^64. -/
def int? (s : List Char) : Option Int :=
  let (neg, ds) := splitSign s
  match (unsigned? ds).bind (word? neg) with
  | some n => some n
  | none =>
    match unsigned? s with
    | some n => if n < wordValues then some n else none
    | none =>
      match s with
      | '0' :: 'b' :: r => marked? 2 r
      | '0' :: 'o' :: r => marked? 8 r
      | _ => none

/-- Whether every underscore stands between two digits. -/
def separatesDigits : Option Char → List Char → Bool
  | _, [] => true
  | prev, c :: r =>
    (c ≠ '_' || (prev.any Char.isDigit && r.head?.any Char.isDigit)) && separatesDigits (some c) r

/-- The text without underscores. -/
def withoutUnderscores (s : List Char) : List Char := s.filter (· ≠ '_')

/-! ## Spellings -/

/-- The values that have spellings of their own. -/
def spellings : List (String × Value) :=
  let all (names : List String) (v : Value) := names.map (·, v)
  all ["true", "True", "TRUE"] (.bool true) ++ all ["false", "False", "FALSE"] (.bool false) ++
  all ["", "~", "null", "Null", "NULL"] .null ++ all [".nan", ".NaN", ".NAN"] (.real .nan) ++
  all [".inf", ".Inf", ".INF", "+.inf", "+.Inf", "+.INF"] (.real (.infinite false)) ++
  all ["-.inf", "-.Inf", "-.INF"] (.real (.infinite true))

/-- What a plain scalar stands for by its spelling. -/
def ofSpelling (s : List Char) : Value :=
  match spellings.lookup (String.ofList s), s with
  | some v, _ => v
  | none, c :: _ =>
    if c = '.' then
      if separatesDigits none s then ((Binary64.ofText? (withoutUnderscores s)).map real).getD (.text s)
      else .text s
    else if c = '+' || c = '-' || c.isDigit then
      let plain := withoutUnderscores s
      match int? plain, Binary64.ofText? plain with
      | some n, _ => .int n
      | none, some x => .real x
      | none, none => .text s
    else .text s
  | none, [] => .null

/-! ## Tags -/

/-- One or two digits and what follows them. -/
def shortNumber? (s : List Char) : Option (Nat × List Char) :=
  let ds := (s.take 2).takeWhile Char.isDigit
  (digitsValue? ds).map (·, s.drop ds.length)

/-- What follows an offset from Greenwich. -/
def eatOffset? (s : List Char) : Option (List Char) :=
  match s with
  | 'Z' :: r => some r
  | sign :: a :: b :: ':' :: c :: d :: r => do
    let h ← digitsValue? [a, b]
    let m ← digitsValue? [c, d]
    if (sign = '+' || sign = '-') && h ≤ 24 && m ≤ 60 then some r else none
  | _ => none

/-- What follows a time of day. -/
def eatClock? (s : List Char) : Option (List Char) := do
  let (h, s) ← shortNumber? s
  let (m, s) ← shortNumber? (← Text.eat? [':'] s)
  let (sec, s) ← shortNumber? (← Text.eat? [':'] s)
  let s := match s with
    | c :: d :: r =>
      if (c = '.' || c = ',') && d.isDigit then r.dropWhile Char.isDigit else s
    | _ => s
  if h < 24 && m < 60 && sec < 60 then some s else none

/-- Whether a text is a date, alone or with a time of day. -/
def isTime (s : List Char) : Bool := Option.isSome do
  let year ← digitsValue? (s.take 4)
  let (month, r) ← shortNumber? (← Text.eat? ['-'] (s.drop 4))
  let (day, r) ← shortNumber? (← Text.eat? ['-'] r)
  if month < 1 || month > 12 || day < 1 || day > Time.daysIn year month then none
  else
    match r with
    | [] => some ()
    | c :: r =>
      let rest ← eatClock? r
      if c = ' ' && rest.isEmpty then some ()
      else if (c = 'T' || c = 't') && eatOffset? rest == some [] then some ()
      else none

/-- Whether a value is of the type that a tag asks for; a tag for numbers with a fraction takes
integers too. -/
def cast (tag : String) (s : List Char) : Value → Result Value
  | .null => if tag = "!!null" then .ok .null else mismatch
  | .bool b => if tag = "!!bool" then .ok (.bool b) else mismatch
  | .int n =>
    if tag = "!!int" then .ok (.int n)
    else if tag = "!!float" && fitsWord n then .ok (.real (.ofInt n))
    else mismatch
  | .real x => if tag = "!!float" then .ok (.real x) else mismatch
  | .text t => if tag = "!!timestamp" && isTime s then .ok (.text t) else mismatch
where
  /-- The refusal of a value of another type. -/
  mismatch : Result Value := fail ("cannot decode as a " ++ tag)

/-- What a scalar stands for. Tags that are not known leave it a text. -/
def ofScalar (tag : Option String) (s : List Char) (style : ScalarStyle) : Result Value :=
  match tag with
  | none => .ok (if style = .quoted then .text s else ofSpelling s)
  | some t =>
    if t ∈ ["!!bool", "!!int", "!!float", "!!null", "!!timestamp"] then cast t s (ofSpelling s)
    else if t = "!!binary" then
      match Text.decodeBase64 (Text.bytes s) with
      | .ok bytes => .ok (.text (Text.ofBytes bytes))
      | .error _ => fail "!!binary value contains invalid base64 data"
    else .ok (.text s)

end Value

end JavaReview.Yaml
