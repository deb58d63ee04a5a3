import JavaReview.Store.Source

/-!
Opening a store: its settings are made one after the other, the file is looked at when the first of them
needs it, and the tables are made in a file without any. What was done to the file before something
failed stays done.
-/

namespace JavaReview

/-- What the file of a store holds: no table yet, a store, or something else. The changes of what can be
used may go to a log first. -/
inductive StoreContent where
  | blank (logged : Bool)
  | store (logged : Bool)
  | foreign
deriving DecidableEq, Repr

namespace StoreContent

/-- Whether changes go to a log first. -/
def isLogged : StoreContent → Bool
  | blank logged | store logged => logged
  | foreign => false

/-- Whether the tables are still to be made. -/
def isBlank : StoreContent → Bool
  | blank _ => true
  | _ => false

/-- The same content, with or without a log. -/
def withLog : StoreContent → Bool → StoreContent
  | blank _, logged => blank logged
  | store _, logged => store logged
  | foreign, _ => foreign

/-- The content when the tables have been made. -/
def withTables (c : StoreContent) : StoreContent := store c.isLogged

end StoreContent

/-- Where the state before a change is kept until the change is done: in a journal that is deleted,
cleared or cut off then, nowhere, in memory, or in a log of the changes themselves. -/
inductive JournalMode where
  | delete
  | persist
  | off
  | truncate
  | memory
  | log
deriving DecidableEq, Repr

namespace JournalMode

/-- The modes by their names. -/
def names : List (String × JournalMode) :=
  [("delete", delete), ("persist", persist), ("off", off), ("truncate", truncate), ("memory", memory),
    ("wal", log)]

/-- The mode with a name, of which the start is enough. -/
def ofText? (s : String) : Option JournalMode :=
  (names.find? fun m => (s.toList.map Char.toLower).isPrefixOf m.1.toList).map (·.2)

/-- Whether the file of the journal stays when a change is done. -/
def keepsJournal (m : JournalMode) : Bool := m = persist || m = truncate

end JournalMode

/-- The file of a store. -/
structure StoreFile where
  source : StoreSource
  /-- Whether there can be a file for the journal beside it. -/
  canJournal : Bool

/-- What opening a file has come to. -/
structure Opening where
  content : StoreContent
  mode : JournalMode := .delete
  /-- Whether there is a file for the journal in the end, if that is known. -/
  journal : Option Bool := none
  /-- Whether the file was looked at. -/
  looked : Bool := false
  /-- Whether the tables are known. -/
  loaded : Bool := false
  queryOnly : Bool := false
  /-- How many pages the file may have. -/
  pageLimit : Option Nat := none

/-- A step of opening a file. -/
abbrev Attempt := ExceptT OpenError (StateM Opening)

namespace StoreFile

/-- Whether nothing can be written to a file. -/
def isFixed (f : StoreFile) : Bool := f.source.access = .readOnly || f.source.immutable

/-- Whether the log of a store that has one cannot be used. -/
def lacksLog (f : StoreFile) : Bool :=
  !f.source.immutable && (!f.source.canLog || f.source.sharedFirst)

/-- Looks at the content of a file. -/
def look (f : StoreFile) : Attempt Unit := do
  let o ← get
  if o.looked then return
  if o.content = .foreign then throw .notStore
  if o.content.isLogged && f.lacksLog then throw .noJournal
  set { o with
    looked := true, mode := if o.content.isLogged && !f.source.immutable then .log else .delete }

/-- Gets to know the tables of a file. -/
def load (f : StoreFile) : Attempt Unit := do
  f.look
  modify fun o => { o with loaded := !o.content.isBlank }

/-- Whether a file can be changed. -/
def checkChange (f : StoreFile) : Attempt Unit := do
  if f.isFixed then throw .readOnly
  if (← get).content = .blank false && !f.canJournal then throw .noJournal

/-- Changes a file. -/
def change (f : StoreFile) : Attempt Unit := do
  f.checkChange
  modify fun o =>
    if o.mode.keepsJournal then { o with journal := some true }
    else if o.mode = .delete then { o with journal := some false }
    else o

/-- Changes the mode of the journal. The use of a log is noted in the file; a file that nobody changes
needs none. -/
def setMode (f : StoreFile) (mode : JournalMode) : Attempt Unit := do
  let o ← get
  if o.mode = mode || f.source.immutable || (mode = .log && !f.source.canLog) then return
  if o.mode = .log then
    if f.isFixed then throw .noLock
    set { o with mode, content := o.content.withLog false }
    f.change
  else if mode = .log then
    f.checkChange
    let leaves := o.mode.keepsJournal || o.mode = .delete
    set { o with
      mode, content := o.content.withLog true, journal := if leaves then some false else o.journal }
  else
    let leaves := o.mode.keepsJournal && !mode.keepsJournal
    set { o with mode, journal := if leaves then some false else o.journal }

/-- The settings that write to the file. -/
def writingSettings : List String :=
  ["application_id", "user_version", "schema_version", "default_cache_size"]

/-- The settings that need the tables. -/
def loadingSettings : List String :=
  ["auto_vacuum", "cache_size", "default_cache_size", "foreign_key_check", "foreign_key_list",
    "incremental_vacuum", "index_info", "index_list", "index_xinfo", "integrity_check", "journal_mode",
    "max_page_count", "optimize", "page_count", "quick_check", "stats", "synchronous", "table_info",
    "table_list", "table_xinfo", "wal_checkpoint"]

/-- The settings that check a table. -/
def checkingSettings : List String := ["integrity_check", "quick_check", "foreign_key_check"]

/-- The tables that every file has. -/
def commonTables : List String :=
  ["sqlite_schema", "sqlite_master", "sqlite_temp_schema", "sqlite_temp_master"]

/-- The tables of a store. -/
def storeTables : List String :=
  ["reviews", "findings", "rule_states", "users", "sessions", "audit", "waivers", "sqlite_sequence"]

/-- Checks that there is a table for a setting. -/
def findTable (a : Setting.Assignment) (name : String) : Attempt Unit := do
  let known := commonTables ++ if (← get).content.isBlank || a.isTemporary then [] else storeTables
  if !known.contains (Setting.plainLower name.toList) then
    let place := (a.part.map (·.name ++ ".")).getD ""
    throw (.badSetting (.unknownTable (place ++ name)))

/-- Makes a setting with a value. -/
def setTo (f : StoreFile) (a : Setting.Assignment) (v : Setting.Value) : Attempt Unit := do
  let o ← get
  match a.name with
  | "query_only" => set { o with queryOnly := Setting.isOn v.text }
  | "max_page_count" =>
    if !a.isTemporary then
      set { o with pageLimit := (Setting.positive? v.text).or o.pageLimit }
  | "encoding" =>
    if !o.loaded && !Setting.encodings.contains (Setting.plainLower v.text.toList) then
      throw (.badSetting (.unknownEncoding v.text))
  | "journal_mode" =>
    match JournalMode.ofText? v.text with
    | some mode => if !a.isTemporary then f.setMode mode
    | none => return
  | name =>
    if writingSettings.contains name then
      if o.queryOnly || (f.isFixed && !a.isTemporary) then throw .readOnly
      f.look
      if !a.isTemporary then f.change
    else if checkingSettings.contains name then
      let isCount := name ≠ "foreign_key_check" && (v.digits.bind Setting.smallNumber?).isSome
      if !isCount then findTable a v.text

/-- Makes a setting. -/
def make (f : StoreFile) (a : Setting.Assignment) : Attempt Unit := do
  if loadingSettings.contains a.name then f.load
  let o ← get
  if a.name = "incremental_vacuum" && (f.isFixed || o.queryOnly) then throw .readOnly
  if a.name = "optimize" && f.isFixed && o.loaded then throw .readOnly
  match a.value with
  | some v => f.setTo a v
  | none => return

/-- Makes settings in order. -/
def makeAll (f : StoreFile) : List String → Attempt Unit
  | [] => return
  | s :: r => do
    match Setting.read s with
    | .error fault => throw (.badSetting fault)
    | .ok assignments => assignments.forM f.make
    f.makeAll r

/-- How many pages the tables of a store take. -/
def tablePages : Nat := 14

/-- Makes the tables of a store in a file without any. -/
def makeTables (f : StoreFile) : Attempt Unit := do
  let o ← get
  if o.content.isBlank && o.queryOnly then throw .readOnly
  if o.content.isLogged && f.lacksLog then throw .noJournal
  if o.content.isBlank then
    f.change
    if o.pageLimit.any (· < tablePages) then throw .full
    modify fun o => { o with content := o.content.withTables }

/-- Opens a file. -/
def attempt (f : StoreFile) : Attempt Unit := do
  f.makeAll f.source.settings
  if let .error e := f.source.checked then throw e
  f.makeTables

/-- Opens a file with a content: whether that can be done, and what it has come to. -/
def tryOpen (f : StoreFile) (content : StoreContent) : Except OpenError Unit × Opening :=
  f.attempt.run.run { content }

end StoreFile

end JavaReview
