import JavaReview.Http.Target
import JavaReview.Store.Setting

/-!
What a text that names a store asks for. The text is the address of a file, with options after a
question mark: how the file is opened, and settings that are made then.
-/

namespace JavaReview

/-- Why a store cannot be opened. -/
inductive OpenError where
  | badQuery (fault : Http.QueryFault)
  | conflictingSystems (names : List String)
  | badOption
  | notAllowed
  | unreachable
  | badSetting (fault : Setting.Fault)
  | notStore
  | noJournal
  | noLock
  | readOnly
  | full
  | unknownOption (name value remark : String)
deriving DecidableEq, Repr

namespace OpenError

/-- The text of an error. -/
def message : OpenError → String
  | badQuery fault => fault.message
  | conflictingSystems names =>
    "conflicting vfs query parameters: [" ++ String.intercalate " " names ++ "]"
  | badOption => "SQL logic error: out of memory (1)"
  | notAllowed => "access permission denied: out of memory (3)"
  | unreachable => "unable to open database file: out of memory (14)"
  | badSetting fault => "SQL logic error: " ++ fault.message ++ " (1)"
  | notStore => "file is not a database (26)"
  | noJournal => "unable to open database file (14)"
  | noLock => "disk I/O error (3850)"
  | readOnly => "attempt to write a readonly database (8)"
  | full => "database or disk is full (13)"
  | unknownOption name value remark => "unknown " ++ name ++ " " ++ quoted value ++ remark

end OpenError

/-- How the file of a store is opened. -/
inductive StoreAccess where
  | readOnly
  | existing
  | creating
  | memory
deriving DecidableEq, Repr

namespace StoreAccess

/-- The access that an option asks for. -/
def ofText? (s : String) : Option StoreAccess :=
  match s with
  | "ro" => some readOnly
  | "rw" => some existing
  | "rwc" => some creating
  | "memory" => some memory
  | _ => none

/-- How much may be done to the file. -/
def rank : StoreAccess → Nat
  | memory => 0
  | readOnly => 1
  | existing => 2
  | creating => 3

/-- Whether an option may ask for an access after another one: for memory at any time, and otherwise
for no more than before. -/
def allows (old new : StoreAccess) : Bool := old = memory || new.rank ≤ old.rank

end StoreAccess

/-- What a text that names a store asks for. -/
structure StoreSource where
  /-- A store without a path is not kept. -/
  path : Option String
  access : StoreAccess
  /-- Whether the file is taken for one that nobody changes. -/
  immutable : Bool
  /-- Whether the file can be used together with a log. -/
  canLog : Bool
  /-- Whether the file that is shared by the users of a log has to be there already. -/
  sharedFirst : Bool
  /-- The settings in the order in which they are made. -/
  settings : List String
  /-- What comes of the options that are looked at after the settings. -/
  checked : Except OpenError Unit
  /-- Whether a change takes its lock before it starts. -/
  locksFirst : Bool

namespace StoreSource

/-! ## The address of the file -/

/-- An address without the host that may stand before it, which can only be this one. -/
def dropHost (address : List Char) : Except OpenError (List Char) :=
  match address with
  | '/' :: '/' :: r =>
    let host := r.takeWhile (· ≠ '/')
    if host = [] ∨ host = "localhost".toList then .ok (r.dropWhile (· ≠ '/')) else .error .badOption
  | _ => .ok address

/-- The bytes of a part of an address. A percent sign that starts no escape stands for itself, and the
escape of a zero ends the part. -/
def partBytes : List Char → List Nat
  | [] => []
  | '%' :: a :: b :: r =>
    match Text.Unicode.hexDigit? a, Text.Unicode.hexDigit? b with
    | some x, some y => if x = 0 && y = 0 then [] else (16 * x + y) :: partBytes r
    | _, _ => 0x25 :: partBytes (a :: b :: r)
  | c :: r => Text.charBytes c ++ partBytes r

/-- The text of a part of an address. -/
def partText (s : List Char) : String := String.ofList (Text.ofBytes (partBytes s))

/-- The options of an address, without those that have no name. -/
def options (query : List Char) : List (String × String) :=
  ((Text.splitOn '&' query).map fun p =>
    (partText (p.takeWhile (· ≠ '=')), partText ((p.dropWhile (· ≠ '=')).drop 1))).filter (·.1 ≠ "")

/-- The access that options ask for. -/
def accessOf (access : StoreAccess) : List (String × String) → Except OpenError StoreAccess
  | [] => .ok access
  | (name, value) :: r =>
    if name = "mode" then
      match StoreAccess.ofText? value with
      | none => .error .badOption
      | some new => if access.allows new then accessOf new r else .error .notAllowed
    else if name = "cache" && value ≠ "shared" && value ≠ "private" then .error .badOption
    else accessOf access r

/-- A file system that keeps stores. -/
structure FileSystem where
  name : String
  /-- Whether stores are in files. -/
  keeps : Bool := true
  /-- Whether there can be a log beside a store. -/
  canLog : Bool := true
  /-- Whether the users of a log share a file. -/
  shares : Bool := true

/-- The file systems. -/
def fileSystems : List FileSystem :=
  [{ name := "unix" }, { name := "unix-none", canLog := false }, { name := "unix-dotfile", canLog := false },
    { name := "unix-excl", shares := false }, { name := "memdb", keeps := false, canLog := false }]

/-- The file system with a name. -/
def systemOf (name : String) : Except OpenError FileSystem :=
  match fileSystems.find? (·.name = name) with
  | some system => .ok system
  | none => .error .badOption

/-- Whether an option is switched on. -/
def isSwitched (options : List (String × String)) (name : String) : Bool :=
  (options.lookup name).any Setting.isOn

/-! ## Settings -/

/-- The settings of every store. -/
def standardQuery : String :=
  "?_pragma=busy_timeout(5000)&_pragma=journal_mode(WAL)&_pragma=foreign_keys(ON)"

/-- The settings that a query asks for, in the order in which they are made. -/
def settingsOf (query : Http.Query) : List String :=
  ((query.pairs.filter (·.1 = "_pragma")).map (·.2)).mergeSort Setting.precedes

/-- An option that has to have one of some values, if it has one. -/
def checkOption (query : Http.Query) (name : String) (isValue : String → Bool) (remark : String) :
    Except OpenError Unit :=
  let value := query.get name
  if value = "" ∨ isValue value then .ok () else .error (.unknownOption name value remark)

/-- The values of an option that is a flag. -/
def flagValues : List String :=
  ["1", "t", "T", "TRUE", "true", "True", "0", "f", "F", "FALSE", "false", "False"]

/-- Checks the options that are looked at after the settings. -/
def checkOptions (query : Http.Query) : Except OpenError Unit := do
  checkOption query "_time_format" ["sqlite", "datetime"].contains ""
  checkOption query "_time_integer_format" ["unix", "unix_milli", "unix_micro", "unix_nano"].contains ""
  checkOption query "_inttotime" flagValues.contains ", must be 0 or 1"
  checkOption query "_texttotime" flagValues.contains ", must be 0 or 1"
  checkOption query "_txlock" (fun v => ["deferred", "immediate", "exclusive"].contains (lowercase v)) ""

/-- What a text that names a store asks for. -/
def ofText (text : String) : Except OpenError StoreSource := do
  let address := text.toList ++ standardQuery.toList
  let query := Http.Query.ofText ((address.dropWhile (· ≠ '?')).drop 1)
  if let some fault := query.fault then throw (.badQuery fault)
  let systems := (query.pairs.filter (·.1 = "vfs")).map (·.2)
  if (systems.zip systems.tail).any fun p => p.1 ≠ "" && p.1 ≠ p.2 then
    throw (.conflictingSystems systems)
  let address := (← dropHost (address.takeWhile (· ≠ Char.ofNat 0))).takeWhile (· ≠ '#')
  let options := options ((address.dropWhile (· ≠ '?')).drop 1)
  let access ← accessOf .creating options
  let system ← systemOf (((options.filter (·.1 = "vfs")).getLast?.map (·.2)).getD "unix")
  let path := partText (address.takeWhile (· ≠ '?'))
  let named := path ≠ "" && path ≠ ":memory:" && access ≠ .memory
  let kept := named && system.keeps
  return { path := if kept then some path else none
           access
           immutable := named && isSwitched options "immutable"
           canLog := kept && system.canLog && !isSwitched options "nolock"
           sharedFirst := system.shares && isSwitched options "readonly_shm"
           settings := settingsOf query
           checked := checkOptions query
           locksFirst := ["immediate", "exclusive"].contains (lowercase (query.get "_txlock")) }

end StoreSource

end JavaReview
