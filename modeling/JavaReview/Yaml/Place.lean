import JavaReview.Yaml.Scalar

/-!
Places in a YAML document. What a node stands for hangs on how it was reached: an alias is followed to
the node that it stands for, but not once more from inside that node.
-/

namespace JavaReview.Yaml

/-- From where nodes are looked at: the document, and the aliases that were followed to get there, the
last one first. -/
structure Scope where
  document : Document
  followed : List Nat := []

/-- A node in a scope. -/
structure Place where
  scope : Scope
  node : Node

namespace Scope

/-- A node in this scope. -/
def place (s : Scope) (n : Node) : Place := { scope := s, node := n }

/-- Whether a scope lies inside an alias. -/
def inAlias (s : Scope) : Bool := !s.followed.isEmpty

/-- The place that an alias stands for. -/
def follow (s : Scope) (a : Alias) : Result Place :=
  if s.followed.contains a.index then fail "anchor value contains itself"
  else
    match s.document.anchored[a.target]? with
    | some n => .ok { scope := { s with followed := a.index :: s.followed }, node := n }
    | none => fail "unknown anchor referenced"

/-- A bound on how many aliases can be followed one inside the other. -/
def depth (s : Scope) : Nat := s.document.aliases + 1

end Scope

/-- The root of a document, as a place. -/
def Document.start (d : Document) : Place := { scope := { document := d }, node := d.root }

namespace Place

/-- The place that an alias stands for, or the place itself. -/
def target (p : Place) : Result Place :=
  match p.node with
  | .alias a => p.scope.follow a
  | _ => .ok p

/-- What a scalar stands for; other nodes have no value. -/
def value (p : Place) : Result Value := do
  match (← p.target).node with
  | .scalar tag text style => Value.ofScalar tag text style
  | _ => fail "cannot unmarshal a collection into a scalar"

/-- Whether a node is a scalar that stands for nothing. -/
def isNull (p : Place) : Result Bool := do
  match (← p.target).node with
  | .scalar .. =>
    match ← p.value with
    | .null => return true
    | _ => return false
  | _ => return false

/-- The text of a scalar as it is written, or nothing for a null. -/
def text? (p : Place) : Result (Option String) := do
  match ← p.value, (← p.target).node with
  | .null, _ => return none
  | .text s, _ => return some (String.ofList s)
  | _, .scalar _ s _ => return some (String.ofList s)
  | _, _ => return none

/-- Reads an integer of 64 bits; fractions are cut off, and what is too small becomes the least
integer. -/
def int? (p : Place) : Result (Option Int) := do
  match ← p.value with
  | .null => return none
  | .int i => if fitsWord i then return some i else fail "integer out of range"
  | .real x =>
    match x, x.truncate? with
    | _, some i => if i > -leastWord then fail "integer out of range" else return some (saturate i)
    | .infinite true, none => return some leastWord
    | _, none => fail "no integer"
  | _ => fail "cannot unmarshal into an integer"
where
  /-- The integer, or the least one if it has more than 64 bits. -/
  saturate (i : Int) : Int := if fitsWord i then i else leastWord

/-- The words for a flag that is on. -/
def onWords : List String := ["y", "Y", "yes", "Yes", "YES", "on", "On", "ON"]

/-- The words for a flag that is off. -/
def offWords : List String := ["n", "N", "no", "No", "NO", "off", "Off", "OFF"]

/-- Reads a flag. -/
def flag? (p : Place) : Result (Option Bool) := do
  match ← p.value with
  | .null => return none
  | .bool b => return some b
  | .text s =>
    if String.ofList s ∈ onWords then return some true
    else if String.ofList s ∈ offWords then return some false
    else fail "cannot unmarshal into a flag"
  | _ => fail "cannot unmarshal into a flag"

/-- Reads a number. -/
def real? (p : Place) : Result (Option Binary64) := do
  match ← p.value with
  | .null => return none
  | .int i => return some (.ofInt i)
  | .real x => return some x
  | _ => fail "cannot unmarshal into a number"

end Place

end JavaReview.Yaml
