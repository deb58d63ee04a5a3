import JavaReview.Yaml.Place

/-!
Reading records out of YAML documents. A record is a mapping whose keys name fields; fields that are not
known are passed over without a look at their values. A null leaves a field as it is, but empties a
list.
-/

namespace JavaReview.Yaml

namespace Node

/-- Whether a key asks to merge the fields of another mapping. -/
def isMerge : Node → Bool
  | .scalar none ['<', '<'] .plain => true
  | .scalar (some "!!merge") ['<', '<'] _ => true
  | _ => false

/-- What keys of a mapping are compared by: the kind of the node and its own text. -/
def keyText : Node → Nat × List Char
  | .scalar _ s _ => (0, s)
  | .alias a => (1, a.name)
  | .sequence _ => (2, [])
  | .mapping _ => (3, [])

/-- Whether two keys of a mapping are equal. -/
def repeatsKey : List (Node × Node) → Bool
  | [] => false
  | e :: es => es.any (fun f => f.1.keyText = e.1.keyText) || repeatsKey es

end Node

/-- The fields of a record, by name. -/
abbrev Fields := List (String × Place)

namespace Fields

/-- The fields that entries name; keys that are null name none. -/
def ofEntries (s : Scope) : List (Node × Node) → Result Fields
  | [] => .ok []
  | (k, v) :: es =>
    if k.isMerge then ofEntries s es
    else do
      match ← (s.place k).text? with
      | none => ofEntries s es
      | some name => return (name, s.place v) :: (← ofEntries s es)

/-- The fields of both, those of the second only if the first has none of that name. -/
def merge (fs gs : Fields) : Fields :=
  fs ++ (gs.filter fun g => (fs.lookup g.1).isNone).eraseDupsBy fun a b => a.1 == b.1

mutual

/-- The fields of a mapping, with those it merges after its own, or of an alias of one. `follow` gives the
fields of what an alias stands for. -/
def ofNode (s : Scope) (follow : Alias → Result Fields) : Node → Result Fields
  | .alias a => follow a
  | .mapping entries =>
    if Node.repeatsKey entries then fail "mapping key already defined"
    else do
      let own ← ofEntries s entries
      let merged ← mergedEntries s follow entries
      return own.merge merged
  | _ => fail "map merge requires map or sequence of maps as the value"

/-- The fields that the last request to merge brings. -/
def mergedEntries (s : Scope) (follow : Alias → Result Fields) : List (Node × Node) → Result Fields
  | [] => .ok []
  | e :: es =>
    if es.any fun f => f.1.isMerge then mergedEntries s follow es
    else if e.1.isMerge then mergedEntry s follow e
    else .ok []

/-- The fields that a request to merge brings: those of a mapping, of an alias of one, or of a sequence
of these. -/
def mergedEntry (s : Scope) (follow : Alias → Result Fields) : Node × Node → Result Fields
  | (_, .sequence items) => mergedItems s follow items
  | (_, n) => ofNode s follow n

/-- The fields of the mappings of a sequence, earlier ones first. -/
def mergedItems (s : Scope) (follow : Alias → Result Fields) : List Node → Result Fields
  | [] => .ok []
  | n :: ns => do return (← ofNode s follow n).merge (← mergedItems s follow ns)

end

/-- The fields of a mapping at a place, where at most so many aliases are followed. -/
def ofPlace : Nat → Place → Result Fields
  | 0, _ => fail "anchor value contains itself"
  | depth + 1, p =>
    ofNode p.scope (fun a => do ofPlace depth (← p.scope.follow a)) p.node

/-- A field of a record: the default if it is not named, and an error if it is named twice. -/
def get {α : Type} (fs : Fields) (name : String) (read : Place → Result (Option α)) (default : α) :
    Result α :=
  match fs.filter (·.1 == name) with
  | [] => .ok default
  | [f] => return (← read f.2).getD default
  | _ => fail ("field " ++ name ++ " already set")

end Fields

namespace Place

/-- The fields of a record, or none of them for a null. -/
def fields (p : Place) : Result Fields := do
  if ← p.isNull then return []
  else
    let q ← p.target
    match q.node with
    | .mapping _ => Fields.ofPlace q.scope.depth q
    | _ => fail "cannot unmarshal into a record"

/-- Reads a list whose nulls are dropped; a null stands for no list. -/
def list? {α : Type} (read : Place → Result (Option α)) (p : Place) :
    Result (Option (Option (List α))) := do
  if ← p.isNull then return some none
  else
    let q ← p.target
    match q.node with
    | .sequence items => return some (some ((← items.mapM fun n => read (q.scope.place n)).filterMap id))
    | _ => fail "cannot unmarshal into a list"

end Place

end JavaReview.Yaml
