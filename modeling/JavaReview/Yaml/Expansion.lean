import JavaReview.Yaml.Record

/-!
A guard against texts whose aliases stand for far more than is written. What is read of a node is
counted: its keys, and the values that the shape asked for has a place for. An alias counts itself and
what it stands for, and a text where nearly all that is read comes from aliases is refused.
-/

namespace JavaReview.Yaml

/-- What a node is read as. -/
inductive Shape where
  | scalar
  | list (item : Shape)
  | record (fields : List (String × Shape))

/-- A record of scalars. -/
def Shape.ofNames (names : List String) : Shape := record (names.map (·, scalar))

/-- How many nodes were read, and how many of them inside an alias. -/
structure Tally where
  read : Nat := 0
  aliased : Nat := 0

namespace Tally

/-- How many nodes may be read before the share of aliases gets smaller, and from where on it is
smallest. -/
def firstLimit : Nat := 400000

@[inherit_doc firstLimit]
def lastLimit : Nat := 4000000

/-- Whether more than the share of aliases that a text may have comes from them: 99 of 100 up to the
first limit, 10 of 100 from the last one on, and a share in proportion between the two. Few nodes may
come from aliases as they like. -/
def isExcessive (t : Tally) : Bool :=
  t.aliased > 100 && t.read > 1000 &&
    if t.read ≤ firstLimit then 100 * t.aliased > 99 * t.read
    else if t.read ≥ lastLimit then 100 * t.aliased > 10 * t.read
    else
      100 * (lastLimit - firstLimit) * t.aliased >
        (99 * (lastLimit - firstLimit) - 89 * (t.read - firstLimit)) * t.read

end Tally

/-- A step of counting. -/
abbrev Counting := StateT Tally Result

namespace Counting

/-- Counts a node. -/
def note (inAlias : Bool) : Counting Unit := do
  let t ← get
  let t : Tally := { read := t.read + 1, aliased := if inAlias then t.aliased + 1 else t.aliased }
  if t.isExcessive then throw ⟨"document contains excessive aliasing"⟩ else set t

/-- Counts a key. -/
def key (s : Scope) (n : Node) : Counting Unit := do
  note s.inAlias
  match n with
  | .alias _ => note true
  | _ => return ()

/-- Counts the keys of a mapping. -/
def keys (s : Scope) : List (Node × Node) → Counting Unit
  | [] => return ()
  | e :: es => do
    key s e.1
    keys s es

/-- The names of the keys of a mapping. -/
def namesOf (s : Scope) (entries : List (Node × Node)) : Result (List String) := do
  return (← entries.mapM fun e => (s.place e.1).text?).filterMap id

/-- The names that a merged mapping may not set any more, where one is read. -/
abbrev Taken := Option (List String)

/-- A way to count what an alias stands for. -/
abbrev Following := Shape → Taken → Alias → Counting Taken

mutual

/-- Counts a node that is read as a shape. The names that are taken after it are the result. -/
def node (s : Scope) (follow : Following) (shape : Shape) (taken : Taken) : Node → Counting Taken
  | .scalar .. => do
    note s.inAlias
    return taken
  | .alias a => do
    note s.inAlias
    follow shape taken a
  | .sequence items => do
    note s.inAlias
    match shape with
    | .list item => itemsOf s follow item items
    | _ => pure ()
    return taken
  | .mapping entries => do
    note s.inAlias
    match shape with
    | .record fields =>
      let taken' ← entriesOf s follow fields taken entries
      mergedEntries s follow fields (entries, taken') entries
    | _ => return taken

/-- Counts the items of a list. -/
def itemsOf (s : Scope) (follow : Following) (item : Shape) : List Node → Counting Unit
  | [] => return ()
  | n :: ns => do
    let _ ← node s follow item none n
    itemsOf s follow item ns

/-- Counts the keys of a record and the values of its fields. -/
def entriesOf (s : Scope) (follow : Following) (fields : List (String × Shape)) (taken : Taken) :
    List (Node × Node) → Counting Taken
  | [] => return taken
  | e :: es => do
    let taken ← entryOf s follow fields taken e
    entriesOf s follow fields taken es

/-- Counts a key of a record and, if it names a field, its value. -/
def entryOf (s : Scope) (follow : Following) (fields : List (String × Shape)) (taken : Taken) :
    Node × Node → Counting Taken
  | (k, v) => do
    if k.isMerge then return taken
    else
      key s k
      match ← (s.place k).text? with
      | none => return taken
      | some name =>
        if taken.any (·.contains name) then return taken
        else
          match fields.lookup name with
          | some shape =>
            let _ ← node s follow shape none v
          | none => pure ()
          return taken.map (name :: ·)

/-- Counts what the last request to merge brings. The names that the mapping itself has are taken;
they are read once more unless the mapping is merged itself. -/
def mergedEntries (s : Scope) (follow : Following) (fields : List (String × Shape))
    (own : List (Node × Node) × Taken) : List (Node × Node) → Counting Taken
  | [] => return own.2
  | e :: es => do
    if es.any fun f => f.1.isMerge then mergedEntries s follow fields own es
    else if !e.1.isMerge then return own.2
    else
      match own.2 with
      | some taken =>
        let taken ← mergedEntry s follow fields taken e
        return some taken
      | none =>
        keys s own.1
        let names ← namesOf s own.1
        let _ ← mergedEntry s follow fields names e
        return none

/-- Counts what a request to merge brings. -/
def mergedEntry (s : Scope) (follow : Following) (fields : List (String × Shape))
    (taken : List String) : Node × Node → Counting (List String)
  | (_, .sequence items) => mergedItems s follow fields taken items
  | (_, v) => do return (← node s follow (.record fields) (some taken) v).getD taken

/-- Counts the mappings of a sequence that is merged. -/
def mergedItems (s : Scope) (follow : Following) (fields : List (String × Shape))
    (taken : List String) : List Node → Counting (List String)
  | [] => return taken
  | n :: ns => do
    let taken' ← node s follow (.record fields) (some taken) n
    mergedItems s follow fields (taken'.getD taken) ns

end

/-- Counts a node at a place, where at most so many aliases are followed. -/
def place : Nat → Place → Shape → Taken → Counting Taken
  | 0, _, _, _ => throw ⟨"anchor value contains itself"⟩
  | depth + 1, p, shape, taken =>
    node p.scope (fun shape taken a => do place depth (← p.scope.follow a) shape taken) shape taken p.node

end Counting

/-- Refuses a document whose root is read as a shape if its aliases stand for too much. The document
counts too. -/
def Document.checkAliases (d : Document) (shape : Shape) : Result Unit := do
  let count : Counting Unit := do
    Counting.note false
    let _ ← Counting.place d.start.scope.depth d.start shape none
  count.run' {}

end JavaReview.Yaml
