import JavaReview.Command.Arguments

/-!
The commands: their names, how they are nested, and their flags.
-/

namespace JavaReview.Command

/-- The commands. A group holds other commands and does nothing itself. -/
inductive Name where
  | root
  | analyze
  | diff
  | mcp
  | report
  | reviews
  | summary
  | rules
  | rulesList
  | rulesEnable
  | rulesDisable
  | serve
  | user
  | userAdd
  | version
  | help
  | completion
deriving DecidableEq, Repr

namespace Name

/-- The word of a command. -/
def word : Name → String
  | root => "jreview"
  | analyze => "analyze"
  | diff => "diff"
  | mcp => "mcp"
  | report => "report"
  | reviews => "reviews"
  | summary => "summary"
  | rules => "rules"
  | rulesList => "list"
  | rulesEnable => "enable"
  | rulesDisable => "disable"
  | serve => "serve"
  | user => "user"
  | userAdd => "add"
  | version => "version"
  | help => "help"
  | completion => "completion"

/-- The commands in a group. -/
def children : Name → List Name
  | root => [analyze, diff, mcp, report, reviews, summary, rules, serve, user, version, help, completion]
  | rules => [rulesList, rulesEnable, rulesDisable]
  | user => [userAdd]
  | _ => []

/-- The flags of every command. -/
def commonFlags : List Flag :=
  [{ name := "config" }, { name := "db" }, { name := "no-color", kind := .flag }]

/-- The flags of a command, apart from those of every command. -/
def ownFlags : Name → List Flag
  | analyze => [{ name := "format" }, { name := "out" }, { name := "no-save", kind := .flag },
      { name := "workers", kind := .integer }]
  | diff => [{ name := "base", kind := .integer, required := true },
      { name := "head", kind := .integer, required := true }, { name := "out" }]
  | report => [{ name := "review", kind := .integer, required := true }, { name := "out" },
      { name := "format" }]
  | reviews => [{ name := "limit", kind := .integer }, { name := "offset", kind := .integer }]
  | serve => [{ name := "addr" }]
  | userAdd => [{ name := "username", required := true }, { name := "role" }, { name := "password" }]
  | _ => []

/-- The flags by which a command is found. -/
def flags (n : Name) : List Flag := n.ownFlags ++ commonFlags

/-- The flags that ask for information instead. -/
def infoFlags : Name → List Flag
  | root => [{ name := "help", kind := .flag, short := some 'h' },
      { name := "version", kind := .flag, short := some 'v' }]
  | _ => [{ name := "help", kind := .flag, short := some 'h' }]

/-- The least number of arguments of a command. -/
def leastArguments : Name → Nat
  | rulesEnable | rulesDisable => 1
  | _ => 0

/-- Whether a command only holds others. -/
def isGroup (n : Name) : Bool := !n.children.isEmpty

/-- Finds the command that arguments name below a command, and the arguments without its words. -/
def find : Nat → Name → List String → Name × List String
  | 0, n, args => (n, args)
  | depth + 1, n, args =>
    match words n.flags args with
    | [] => (n, args)
    | w :: _ =>
      match n.children.find? (·.word == w) with
      | none => (n, args)
      | some c => find depth c (dropWord n.flags w args)

/-- The depth of the commands. -/
def maxDepth : Nat := 3

/-- The commands that are suggested for a word. -/
def suggestions (w : String) : List String :=
  ((children root).filter fun c => c ≠ help && isNear w c.word).map word

end Name

/-- A command line that was read. -/
structure Line where
  name : Name
  given : Given
  args : List String
deriving DecidableEq, Repr

/-- What is asked for. -/
inductive Request where
  | help
  | programVersion
  | run (line : Line)
deriving DecidableEq, Repr

/-- Reads a command line. What is wrong is found in this order: the command, the flags, the number of
arguments, the required flags. -/
def readLine (args : List String) : Except UsageError Request := do
  let (name, rest) := Name.find Name.maxDepth .root args
  match name, words name.flags rest with
  | .root, w :: _ => .error (.unknownCommand w Name.root.word (Name.suggestions w))
  | _, _ =>
    let (given, args) ← readArguments (name.flags ++ name.infoFlags) [] rest
    if given.isOn "help" then return .help
    else if given.isOn "version" then return .programVersion
    else if name.isGroup || name = .help || name = .completion then return .help
    else if args.length < name.leastArguments then
      .error (.tooFewArguments name.leastArguments args.length)
    else
      requireFlags name.flags given
      return .run { name, given, args }

end JavaReview.Command
