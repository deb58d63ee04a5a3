import JavaReview.Command.Value
import JavaReview.Text.Bytes
import JavaReview.Text.Case
import JavaReview.Text.Search

/-!
Arguments of a command line: which command they name, the flags that are set, and what is left. Flags
may stand anywhere; after two dashes nothing is a flag.
-/

namespace JavaReview.Command

/-- What a flag takes. -/
inductive FlagKind where
  | text
  | integer
  | flag
deriving DecidableEq, Repr

/-- A flag of a command. -/
structure Flag where
  name : String
  kind : FlagKind := .text
  short : Option Char := none
  required : Bool := false

/-- The value of a flag that was set. -/
inductive FlagValue where
  | text (s : String)
  | integer (n : Int)
  | flag (b : Bool)
deriving DecidableEq, Repr

/-- The flags that were set, the last one first. -/
abbrev Given := List (String × FlagValue)

namespace Given

/-- The text of a flag, or another one if it was not set. -/
def text (g : Given) (name default : String) : String :=
  match g.lookup name with
  | some (.text s) => s
  | _ => default

/-- The integer of a flag, or another one if it was not set. -/
def integer (g : Given) (name : String) (default : Int) : Int :=
  match g.lookup name with
  | some (.integer n) => n
  | _ => default

/-- Whether a flag is on. -/
def isOn (g : Given) (name : String) : Bool :=
  match g.lookup name with
  | some (.flag b) => b
  | _ => false

end Given

/-- Why a command line is refused. -/
inductive UsageError where
  | unknownCommand (word program : String) (suggestions : List String)
  | unknownFlag (name : String)
  | unknownShort (c : Char) (all : String)
  | badFlag (arg : String)
  | valueMissing (name : String)
  | badValue (value shown : String) (fault : ValueFault)
  | tooFewArguments (least given : Nat)
  | flagsMissing (names : List String)
deriving DecidableEq, Repr

/-- The character whose number is the first byte of a character. -/
def leadByte (c : Char) : Char := Char.ofNat ((Text.bytes [c]).headD 0)

namespace UsageError

/-- The text of a refusal. -/
def message : UsageError → String
  | unknownCommand word program suggestions =>
    "unknown command " ++ quoted word ++ " for " ++ quoted program ++
      if suggestions.isEmpty then ""
      else "\n\nDid you mean this?\n" ++ String.join (suggestions.map fun s => "\t" ++ s ++ "\n")
  | unknownFlag name => "unknown flag: --" ++ name
  | unknownShort c all =>
    "unknown shorthand flag: " ++ quotedLetter (leadByte (leadByte c)) ++ " in -" ++ all
  | badFlag arg => "bad flag syntax: " ++ arg
  | valueMissing name => "flag needs an argument: --" ++ name
  | badValue value shown fault =>
    "invalid argument " ++ quoted value ++ " for " ++ quoted shown ++ " flag: " ++ fault.message
  | tooFewArguments least given =>
    "requires at least " ++ decimal least ++ " arg(s), only received " ++ decimal given
  | flagsMissing names =>
    "required flag(s) " ++ String.intercalate ", " (names.map fun n => "\"" ++ n ++ "\"") ++ " not set"

end UsageError

/-! ## Words and flags -/

/-- Whether an argument starts with a dash. -/
def hasDash (arg : String) : Bool := arg.toList.head? == some '-'

/-- Whether an argument is a flag whose value is the next argument. -/
def takesNext (flags : List Flag) (arg : String) : Bool :=
  match arg.toList with
  | '-' :: '-' :: name =>
    !name.contains '=' && !flags.any fun f => f.name == String.ofList name && f.kind == .flag
  | ['-', c] => c ≠ '=' && c.toNat < 0x80 && !flags.any fun f => f.short == some c && f.kind == .flag
  | _ => false

/-- The arguments that are words. A flag that takes the last argument ends them. -/
def words (flags : List Flag) : List String → List String
  | [] => []
  | arg :: rest =>
    if arg = "--" then []
    else if takesNext flags arg then
      match rest with
      | [] | [_] => []
      | _ :: rest => words flags rest
    else if arg ≠ "" && !hasDash arg then arg :: words flags rest
    else words flags rest

/-- The arguments without the first word that equals another one. -/
def dropWord (flags : List Flag) (word : String) : List String → List String
  | [] => []
  | arg :: rest =>
    if arg = "--" then arg :: rest
    else if takesNext flags arg then
      match rest with
      | [] => [arg]
      | value :: rest => arg :: value :: dropWord flags word rest
    else if !hasDash arg && arg = word then rest
    else arg :: dropWord flags word rest

/-! ## Setting flags -/

/-- How a flag is shown when its value is refused. -/
def Flag.shown (f : Flag) : String :=
  match f.short with
  | none => "--" ++ f.name
  | some c => "-" ++ String.singleton c ++ ", --" ++ f.name

/-- The value of a flag that a text writes. -/
def Flag.read (f : Flag) (value : String) : Except UsageError FlagValue :=
  match f.kind with
  | .text => .ok (.text value)
  | .integer => ((readInteger value).map .integer).mapError (.badValue value f.shown)
  | .flag => ((readFlag value).map .flag).mapError (.badValue value f.shown)

/-- The start of letters that are left to a test runner. -/
def testMark : List Char := "test.".toList

/-- Sets flags by one letter each. A letter may be followed by an equals sign and a value. What is left
to a test runner is passed over. -/
def setShort (flags : List Flag) (given : Given) : List Char → Except UsageError Given
  | [] => .ok given
  | c :: rest =>
    if testMark.isPrefixOf (c :: rest) then .ok given
    else
      match flags.find? (·.short == some c) with
      | none => .error (.unknownShort c (String.ofList (c :: rest)))
      | some f =>
        match rest with
        | '=' :: v :: r => do return (f.name, ← f.read (String.ofList (v :: r))) :: given
        | _ => setShort flags ((f.name, .flag true) :: given) rest

/-- Reads arguments: the flags that they set and the other arguments, in order. -/
def readArguments (flags : List Flag) (given : Given) : List String → Except UsageError (Given × List String)
  | [] => .ok (given, [])
  | arg :: rest =>
    match arg.toList with
    | ['-', '-'] => .ok (given, rest)
    | '-' :: '-' :: s =>
      if s.head? == some '-' || s.head? == some '=' then .error (.badFlag arg)
      else
        let name := String.ofList (s.takeWhile (· ≠ '='))
        match flags.find? (·.name == name) with
        | none => .error (.unknownFlag name)
        | some f =>
          if s.contains '=' then do
            let v ← f.read (String.ofList ((s.dropWhile (· ≠ '=')).drop 1))
            readArguments flags ((name, v) :: given) rest
          else if f.kind = .flag then readArguments flags ((name, .flag true) :: given) rest
          else
            match rest with
            | [] => .error (.valueMissing name)
            | value :: rest => do readArguments flags ((name, ← f.read value) :: given) rest
    | '-' :: c :: s => do readArguments flags (← setShort flags given (c :: s)) rest
    | _ => do
      let (given, args) ← readArguments flags given rest
      return (given, arg :: args)

/-- Refuses a command line that does not set all required flags; they are named in order. -/
def requireFlags (flags : List Flag) (given : Given) : Except UsageError Unit :=
  let missing := (flags.filter fun f => f.required && (given.lookup f.name).isNone).map (·.name)
  if missing.isEmpty then .ok () else .error (.flagsMissing (missing.mergeSort (· ≤ ·)))

/-! ## Suggestions -/

/-- The next row of edit distances, from the row before it: `corner` and `left` are the distances
above the last entry and in it. -/
def distanceRow (x : Nat) : Nat → Nat → List Nat → List Nat → List Nat
  | corner, left, y :: ys, up :: ups =>
    let d := if x = y then corner else 1 + min (min up left) corner
    d :: distanceRow x up d ys ups
  | _, _, _, _ => []

/-- The rows of edit distances to `t`, down to the last. -/
def distanceRows (t : List Nat) : List Nat → List Nat → List Nat
  | row, [] => row
  | row, x :: s =>
    match row with
    | [] => []
    | first :: ups => distanceRows t ((first + 1) :: distanceRow x first (first + 1) t ups) s

/-- How many letters have to be put in, left out or replaced to get from one text to another. -/
def distance (s t : List Nat) : Nat := (distanceRows t (List.range (t.length + 1)) s).getLastD 0

/-- Whether a name may be meant by a word: it is near, or the word starts it. -/
def isNear (word name : String) : Bool :=
  let w := word.toList.map Text.lower
  let n := name.toList.map Text.lower
  distance (Text.bytes w) (Text.bytes n) ≤ 2 || w.isPrefixOf n

end JavaReview.Command
