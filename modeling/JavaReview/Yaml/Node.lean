import JavaReview.Text.Search
import JavaReview.Yaml.Token

/-!
The first document of a YAML text. Its tree is read off the tokens by recursive descent, each token
being asked for when it is needed. An alias names the place of the node that it stands for, which may be
a node around it.
-/

namespace JavaReview.Yaml

/-- An alias: the name it is written with, its own number among the aliases of the document, and the
number of the node that it stands for among the nodes with an anchor. -/
structure Alias where
  name : List Char
  index : Nat
  target : Nat

/-- A node. A scalar keeps the tag that was written for it, in its short form. -/
inductive Node where
  | scalar (tag : Option String) (text : List Char) (style : ScalarStyle)
  | sequence (items : List Node)
  | mapping (entries : List (Node × Node))
  | alias (a : Alias)

/-- The node that is written as nothing. -/
def Node.absent : Node := .scalar none [] .plain

/-- A document: its root, the nodes that have an anchor, and how many aliases it has. -/
structure Document where
  root : Node
  anchored : Array Node
  aliases : Nat

/-- The anchors so far: the number that a name stands for, later names first, and the nodes by number.
A node that is still being read is absent. -/
structure Anchors where
  names : List (List Char × Nat) := []
  nodes : Array Node := #[]

namespace Anchors

/-- The number of the node that a name stands for. -/
def get? (as : Anchors) (name : List Char) : Option Nat := as.names.lookup name

/-- A name for the node that is read next. -/
def announce (as : Anchors) (name : List Char) : Anchors :=
  { names := (name, as.nodes.size) :: as.names, nodes := as.nodes.push .absent }

/-- The node that was announced under a number. -/
def settle (as : Anchors) (index : Nat) (n : Node) : Anchors :=
  { as with nodes := as.nodes.setIfInBounds index n }

end Anchors

/-- What reading keeps: the scan, the handles of tags, the anchors and the number of aliases. -/
structure Reader where
  scanner : Scanner
  handles : List (List Char × List Char) := []
  anchors : Anchors := {}
  aliases : Nat := 0

/-- A step of reading. -/
abbrev Read := StateT Reader Result

namespace Read

/-- An error with the given text. -/
def fail {α : Type} (problem : String) : Read α := throw ⟨problem⟩

/-- The next token. -/
def peek : Read Token := do
  let r ← get
  let (t, scanner) ← r.scanner.peek
  set { r with scanner }
  return t

/-- Moves on to the token after the next. -/
def skip : Read Unit := modify fun r => { r with scanner := r.scanner.hand }

/-- The start of the tags that need no directive. -/
def standardTag : List Char := "tag:yaml.org,2002:".toList

/-- The short form of a tag. -/
def shortTag (tag : List Char) : String :=
  match Text.eat? standardTag tag with
  | some r => "!!" ++ String.ofList r
  | none => String.ofList tag

/-- The tag that a handle and a suffix write. A lone exclamation mark is no tag. -/
def tagOf (handle suffix : List Char) : Read (Option String) := do
  let handles := (← get).handles
  match if handle.isEmpty then some suffix else (handles.lookup handle).map (· ++ suffix) with
  | none => fail "found undefined tag handle"
  | some t => return if t = ['!'] then none else some (shortTag t)

/-- The anchor and the tag before a node. -/
structure Properties where
  anchor : Option (List Char) := none
  tag : Option String := none
  present : Bool := false

/-- Reads the anchor and the tag before a node, in any order. -/
def properties : Read Properties := do
  match ← peek with
  | .anchor name =>
    skip
    match ← peek with
    | .tag h s =>
      skip
      return { anchor := some name, tag := ← tagOf h s, present := true }
    | _ => return { anchor := some name, present := true }
  | .tag h s =>
    skip
    match ← peek with
    | .anchor name =>
      skip
      return { anchor := some name, tag := ← tagOf h s, present := true }
    | _ => return { tag := ← tagOf h s, present := true }
  | _ => return {}

/-- Reads a node that an anchor may name. The name stands for the node inside it already. -/
def anchored (p : Properties) (read : Read Node) : Read Node := do
  match p.anchor with
  | none => read
  | some name =>
    let index := (← get).anchors.nodes.size
    modify fun r => { r with anchors := r.anchors.announce name }
    let n ← read
    modify fun r => { r with anchors := r.anchors.settle index n }
    return n

/-- The alias with a name. -/
def aliasOf (name : List Char) : Read Node := do
  let r ← get
  match r.anchors.get? name with
  | none => fail "unknown anchor referenced"
  | some target =>
    set { r with aliases := r.aliases + 1 }
    return .alias { name, index := r.aliases, target }

/-- A step that may take the place of a node that is written as nothing. -/
def nodeUnless (stop : List Token) (node : Read Node) : Read Node := do
  if stop.contains (← peek) then return .absent else node

mutual

/-- Reads a node, in a block or between brackets. After a key the dashes of a sequence need no
indentation. Every call goes on to the next token or to a smaller part of the grammar, so the number
of tokens bounds the depth. -/
def node (block indentless : Bool) : Nat → Read Node
  | 0 => fail "nested too deep"
  | fuel + 1 => do
    match ← peek with
    | .alias name =>
      skip
      aliasOf name
    | _ =>
      let p ← properties
      match ← peek, block with
      | .scalar text style, _ =>
        skip
        anchored p (return .scalar p.tag text style)
      | .flowSequenceStart, _ =>
        skip
        anchored p (return .sequence (← flowItems true fuel))
      | .flowMappingStart, _ =>
        skip
        anchored p (return .mapping (← flowEntries true fuel))
      | .blockSequenceStart, true =>
        skip
        anchored p (return .sequence (← blockItems fuel))
      | .blockMappingStart, true =>
        skip
        anchored p (return .mapping (← blockEntries fuel))
      | t, _ =>
        if indentless && t = .blockEntry then
          anchored p (return .sequence (← indentlessItems fuel))
        else if p.present then anchored p (return .scalar p.tag [] .plain)
        else fail "did not find expected node content"

/-- The items of an indented sequence. -/
def blockItems : Nat → Read (List Node)
  | 0 => fail "nested too deep"
  | fuel + 1 => do
    match ← peek with
    | .blockEntry =>
      skip
      let n ← nodeUnless [.blockEntry, .blockEnd] (node true false fuel)
      return n :: (← blockItems fuel)
    | .blockEnd =>
      skip
      return []
    | _ => fail "did not find expected '-' indicator"

/-- The items of a sequence that is indented like the key before it. -/
def indentlessItems : Nat → Read (List Node)
  | 0 => fail "nested too deep"
  | fuel + 1 => do
    match ← peek with
    | .blockEntry =>
      skip
      let n ← nodeUnless [.blockEntry, .key, .value, .blockEnd] (node true false fuel)
      return n :: (← indentlessItems fuel)
    | _ => return []

/-- The entries of an indented mapping. -/
def blockEntries : Nat → Read (List (Node × Node))
  | 0 => fail "nested too deep"
  | fuel + 1 => do
    match ← peek with
    | .key =>
      skip
      let k ← nodeUnless [.key, .value, .blockEnd] (node true true fuel)
      let v ←
        match ← peek with
        | .value =>
          skip
          nodeUnless [.key, .value, .blockEnd] (node true true fuel)
        | _ => pure .absent
      return (k, v) :: (← blockEntries fuel)
    | .blockEnd =>
      skip
      return []
    | _ => fail "did not find expected key"

/-- The items between square brackets. An item with a key is a mapping of its own; one that starts
with its colon loses it. -/
def flowItems (first : Bool) : Nat → Read (List Node)
  | 0 => fail "nested too deep"
  | fuel + 1 => do
    if (← peek) = .flowSequenceEnd then
      skip
      return []
    if !first then
      if (← peek) = .flowEntry then skip else fail "did not find expected ',' or ']'"
    match ← peek with
    | .flowSequenceEnd =>
      skip
      return []
    | .key =>
      skip
      let k ←
        if [Token.value, .flowEntry, .flowSequenceEnd].contains (← peek) then
          skip
          pure .absent
        else node false false fuel
      let v ←
        match ← peek with
        | .value =>
          skip
          nodeUnless [.flowEntry, .flowSequenceEnd] (node false false fuel)
        | _ => pure .absent
      return .mapping [(k, v)] :: (← flowItems false fuel)
    | _ =>
      let n ← node false false fuel
      return n :: (← flowItems false fuel)

/-- The entries between braces. -/
def flowEntries (first : Bool) : Nat → Read (List (Node × Node))
  | 0 => fail "nested too deep"
  | fuel + 1 => do
    if (← peek) = .flowMappingEnd then
      skip
      return []
    if !first then
      if (← peek) = .flowEntry then skip else fail "did not find expected ',' or '\x7d'"
    match ← peek with
    | .flowMappingEnd =>
      skip
      return []
    | .key =>
      skip
      let k ← nodeUnless [.value, .flowEntry, .flowMappingEnd] (node false false fuel)
      let v ←
        match ← peek with
        | .value =>
          skip
          nodeUnless [.flowEntry, .flowMappingEnd] (node false false fuel)
        | _ => pure .absent
      return (k, v) :: (← flowEntries false fuel)
    | _ =>
      let k ← node false false fuel
      return (k, .absent) :: (← flowEntries false fuel)

end

/-! ## Documents -/

/-- The handles that need no directive. -/
def standardHandles : List (List Char × List Char) :=
  [(['!'], ['!']), (['!', '!'], standardTag)]

/-- Reads the directives before a document, of which there are at most `fuel`. -/
def directives (versioned : Bool) : Nat → Read Unit
  | 0 => fail "found too many directives"
  | fuel + 1 => do
    match ← peek with
    | .versionDirective major minor =>
      if versioned then fail "found duplicate %YAML directive"
      else if major ≠ 1 || minor ≠ 1 then fail "found incompatible YAML document"
      else
        skip
        directives true fuel
    | .tagDirective handle uri =>
      if ((← get).handles.lookup handle).isSome then fail "found duplicate %TAG directive"
      else
        modify fun r => { r with handles := r.handles ++ [(handle, uri)] }
        skip
        directives versioned fuel
    | _ => modify fun r => { r with handles := r.handles ++ standardHandles }

/-- Whether a token ends a document or starts another one. -/
def isBoundary : Token → Bool
  | .versionDirective .. | .tagDirective .. | .documentStart | .documentEnd | .streamEnd => true
  | _ => false

/-- Reads the root of the first document and looks at the token after it. There may be no document. -/
def document (fuel : Nat) : Read (Option Node) := do
  match ← peek with
  | .streamEnd => return none
  | .versionDirective .. | .tagDirective .. | .documentStart =>
    directives false fuel
    if (← peek) = .documentStart then
      skip
      let root ← if isBoundary (← peek) then pure .absent else node true false fuel
      let _ ← peek
      return some root
    else fail "did not find expected <document start>"
  | _ =>
    modify fun r => { r with handles := standardHandles }
    let root ← node true false fuel
    let _ ← peek
    return some root

end Read

/-- The first document of a text. What follows it is looked at no further than its end needs. A
character makes no more than four tokens, and each token no more than four steps. -/
def parse (text : List Char) : Result (Option Document) := do
  let (root?, r) ← (Read.document (16 * (text.length + 4))).run { scanner := .ofText text }
  return root?.map fun root => { root, anchored := r.anchors.nodes, aliases := r.aliases }

end JavaReview.Yaml
