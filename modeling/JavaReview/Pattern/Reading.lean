import JavaReview.Pattern.Tree

/-!
The state of reading a pattern: a stack of trees and marks. What stands above a mark is put together
when the mark's group or alternative ends, and is simplified then: texts that follow each other become
one, alternatives share what they start with, and single characters become a class. A tree that
becomes too high or too large stops the reading; sizes are looked at only once repetitions and cells
are so many that it can matter.
-/

namespace JavaReview

/-- Why a text is no pattern. -/
inductive Pattern.ErrorKind where
  | charRange
  | escape
  | namedCapture
  | unsupported
  | nestedRepeat
  | repeatCount
  | missingBracket
  | missingParen
  | missingOperand
  | trailingBackslash
  | unexpectedParen
  | nesting
  | large
deriving DecidableEq, Repr

namespace Pattern

open Text.Unicode

/-- The greatest height of a tree. -/
def maxHeight : Nat := 1000

/-- The greatest size of a tree. -/
def maxSize : Nat := 3355443

/-- The greatest number of code points and ends of ranges in all nodes. -/
def maxWidth : Nat := 33554432

/-- What has been read: the stack, its top first, and the flags for what follows. `made` counts the
cells, `free` are those given back, last first; `width` sums up the widths of all that was put on the
stack, and `repeats` is the product of all repetitions there. -/
structure Reading where
  stack : List Tree := []
  flags : Flags := {}
  made : Nat := 0
  free : List Nat := []
  width : Nat := 0
  repeats : Nat := 1
  sizes : Option Tree.Sizes := none

/-- A step of reading, which fails at a limit. -/
abbrev Build := StateT Reading (Except ErrorKind)

namespace Build

/-- A cell for a new node: the one given back last, or a new one. -/
def newCell : Build Nat := do
  let st ← get
  match st.free with
  | c :: free =>
    set { st with free }
    return c
  | [] =>
    set { st with made := st.made + 1 }
    return st.made

/-- Gives the cell of a node back that is no longer needed. -/
def giveBack (t : Tree) : Build Unit :=
  modify fun st => { st with free := t.cell :: st.free }

/-- A new node without parts. -/
def newLeaf (op : Op) : Build Tree := return .leaf (← newCell) op

/-! ## Limits -/

/-- Refuses a tree that is too large. -/
def checkWeight (t : Tree) : Build Unit := do
  let st ← get
  let (size, sizes) := t.weigh (st.sizes.getD ∅)
  set { st with sizes := some sizes }
  if size > maxSize then throw .large

/-- The product of the repetitions with those of one more node, up to a bound. -/
def repeatsWith (repeats : Nat) : Op → Nat
  | .repeated min max _ =>
    let n := Nat.max 1 (max.getD min)
    if n > maxSize / repeats then maxSize else repeats * n
  | _ => repeats

/-- Refuses a tree that is too large, if sizes are looked at. From the moment on when repetitions and
cells are many they are, first of all that is on the stack. -/
def checkSize (t : Tree) : Build Unit := do
  let st ← get
  if st.sizes.isNone then
    let repeats := repeatsWith st.repeats t.op
    set { st with repeats }
    if st.made < maxSize / repeats then return ()
    st.stack.reverse.forM checkWeight
  checkWeight t

/-- Refuses a tree that is too large or too high. -/
def checkLimits (t : Tree) : Build Unit := do
  if (← get).width > maxWidth then throw .large
  checkSize t
  if t.height > maxHeight then throw .nesting

/-! ## The top of the stack -/

/-- Joins the two texts on top of the stack, if they are such and are read alike with regard to case.
The node that is left over is given back, or holds the text that is put on the stack. Tells whether that
was done. -/
def joinTexts (next : Option (Nat × Flags)) : Build Bool := do
  let stack ← modifyGet fun st => (st.stack, { st with stack := [] })
  match stack with
  | .node c (.text cs f) ps :: .node d (.text ds g) qs :: rest =>
    if f.ignoreCase ≠ g.ignoreCase then
      modify fun st => { st with stack }
      return false
    let joined := Tree.node d (.text (ds ++ cs) g) qs
    match next with
    | some (code, flags) =>
      modify fun st => { st with stack := .node c (.text #[code] flags) ps :: joined :: rest }
      return true
    | none =>
      modify fun st => { st with stack := joined :: rest, free := c :: st.free }
      return false
  | _ =>
    modify fun st => { st with stack }
    return false

/-- The text that a class stands for if it has one member, or two that are case variants of each other
and of nothing else. -/
def textOf? (flags : Flags) (t : Tree) : Option (Nat × Flags) :=
  match t.op with
  | .oneOf ⟨[(a, b)]⟩ =>
    if a = b then some (a, { flags with ignoreCase := false })
    else if a + 1 = b then pair a b
    else none
  | .oneOf ⟨[(a, b), (c, d)]⟩ => if a = b && c = d then pair a c else none
  | _ => none
where
  /-- The text of two case variants. -/
  pair (a b : Nat) : Option (Nat × Flags) :=
    if caseOrbit a = [a, b] then some (a, { flags with ignoreCase := true }) else none

/-- Puts a tree on the stack. -/
def push (t : Tree) : Build Unit := do
  modify fun st => { st with width := st.width + t.width }
  let put (t : Tree) : Build Unit := do
    modify fun st => { st with stack := t :: st.stack }
    checkLimits t
  match textOf? (← get).flags t with
  | some (code, flags) =>
    if !(← joinTexts (some (code, flags))) then put (.leaf t.cell (.text #[code] flags))
  | none =>
    let _ ← joinTexts none
    put t

/-- Puts a new node without parts on the stack. -/
def pushLeaf (op : Op) : Build Unit := do push (← newLeaf op)

/-- Takes the trees above the topmost mark off the stack, the lowest first. -/
def takeTop : Build (List Tree) := do
  let st ← get
  set { st with stack := st.stack.dropWhile fun t => !t.isMark }
  return (st.stack.takeWhile fun t => !t.isMark).reverse

/-! ## Choices -/

/-- The trees, those of one kind replaced by their parts. -/
def hoist (op : Op) : List Tree → Build (List Tree)
  | [] => return []
  | t :: ts => do
    if t.op = op then
      giveBack t
      return t.parts ++ (← hoist op ts)
    else return t :: (← hoist op ts)

/-- A dot in place of the class that it stands for. -/
def cleanClass (t : Tree) : Tree :=
  match t.op with
  | .oneOf set =>
    if set = anyRanges then .leaf t.cell .any
    else if set = notNewlineRanges then .leaf t.cell .notNewline
    else t
  | _ => t

/-- The order of trees that match single characters, the simplest first. -/
def classRank (t : Tree) : Nat :=
  match t.op with
  | .text .. => 0
  | .oneOf _ => 1
  | .notNewline => 2
  | .any => 3
  | _ => 4

/-- The members of a text of one character, or of a class. -/
def members (t : Tree) : Ranges :=
  match t.op with
  | .text codes flags => ⟨codes.toList.flatMap fun n => (Tree.toPattern.code n flags.ignoreCase).spans⟩
  | .oneOf set => set
  | .notNewline => notNewlineRanges
  | .any => anyRanges
  | _ => .empty

/-- Two trees that match single characters as one, the first being no simpler than the second. -/
def mergeClass (dst src : Tree) : Tree :=
  match dst.op with
  | .any => dst
  | .notNewline => if (members src).has 10 then .leaf dst.cell .any else dst
  | _ =>
    if dst.op = src.op && classRank dst = 0 then dst
    else .leaf dst.cell (.oneOf ((members dst).union (members src)).normal)

/-- What a tree starts with, if that is a text, and whether case counts there. -/
def leadingText (t : Tree) : List Nat × Bool :=
  let lead := match t.op, t.parts with
    | .concat, s :: _ => s
    | _, _ => t
  match lead.op with
  | .text codes flags => (codes.toList, flags.ignoreCase)
  | _ => ([], false)

/-- The text without its first `n` characters. -/
def cutText (n : Nat) (t : Tree) : Tree :=
  match t.op with
  | .text codes flags =>
    let rest := codes.extract n codes.size
    .leaf t.cell (if rest.isEmpty then .empty else .text rest flags)
  | _ => t

/-- The tree without the first `n` characters of the text that it starts with. -/
def cutLeadingText (n : Nat) (t : Tree) : Build Tree := do
  match t.op, t.parts with
  | .concat, s :: rest =>
    let s := cutText n s
    if s.op ≠ .empty then return .node t.cell .concat (s :: rest)
    giveBack s
    match rest with
    | [r] =>
      giveBack t
      return r
    | _ => return .node t.cell .concat rest
  | _, _ => return cutText n t

/-- The first part of a tree. -/
def leading? (t : Tree) : Option Tree :=
  match t.op, t.parts with
  | .empty, _ => none
  | .concat, s :: _ => if s.op = .empty then none else some s
  | _, _ => some t

/-- The tree without its first part, whose cell is given back if it is no longer needed. -/
def cutLeading (needed : Bool) (t : Tree) : Build Tree := do
  match t.op, t.parts with
  | .concat, s :: rest =>
    if !needed then giveBack s
    match rest with
    | [] => return .leaf t.cell .empty
    | [r] =>
      giveBack t
      return r
    | _ => return .node t.cell .concat rest
  | _, _ =>
    if !needed then giveBack t
    newLeaf .empty

/-- Whether alternatives that start with these trees can share the first of them: both match single
characters, or a fixed number of such. Texts are the same here even if case counts in one of them only. -/
def sharesLead (a b : Tree) : Bool :=
  match a.op, a.parts, b.op, b.parts with
  | .repeated min max u, [s], .repeated min' max' u', [s'] =>
    min = min' && max = max' && u = u' && max = some min && s.isClass && sameClass s s'
  | _, _, _, _ => a.isClass && sameClass a b
where
  /-- Whether two trees are alike that match single characters. -/
  sameClass (a b : Tree) : Bool :=
    match a.op, b.op with
    | .text cs _, .text ds _ => cs = ds
    | x, y => x = y

/-- The number of items at the start of two lists that agree. -/
def commonLength : List Nat → List Nat → Nat
  | a :: s, b :: t => if a = b then commonLength s t + 1 else 0
  | _, _ => 0

/-- Alternatives that follow each other, last first, with the text that all of them start with. -/
structure TextRun where
  lead : List Nat
  ignoreCase : Bool
  members : List Tree

/-- Adds an alternative to the last run if it starts with a part of its text, or starts a new run. The
runs are last first. -/
def addToTextRuns (runs : List TextRun) (t : Tree) : List TextRun :=
  let (text, ignoreCase) := leadingText t
  let start : TextRun := ⟨text, ignoreCase, [t]⟩
  match runs with
  | [] => [start]
  | r :: rs =>
    let n := if r.ignoreCase = ignoreCase then commonLength r.lead text else 0
    if n > 0 then { r with lead := r.lead.take n, members := t :: r.members } :: rs
    else start :: r :: rs

/-- Adds an alternative to the last run if it starts with the same tree, or starts a new run. The runs
and their members are last first. -/
def addToTreeRuns (runs : List (Option Tree × List Tree)) (t : Tree) :
    List (Option Tree × List Tree) :=
  let lead := leading? t
  match runs, lead with
  | (some first, ts) :: rs, some s =>
    if sharesLead first s then (some first, t :: ts) :: rs else (lead, [t]) :: (some first, ts) :: rs
  | rs, _ => (lead, [t]) :: rs

/-- The index of the least simple of trees that match single characters. -/
def hardest (ts : List Tree) : Nat :=
  let better (a b : Tree) : Bool :=
    classRank a < classRank b || (classRank a = classRank b && a.width < b.width)
  (ts.zipIdx.foldl (fun best e =>
    match best with
    | none => some e
    | some b => if better b.1 e.1 then some e else some b) none).elim 0 (·.2)

/-- One class in place of trees that match single characters. -/
def mergeClasses (ts : List Tree) : Build Tree := do
  let i := hardest ts
  match ts, ts[i]? with
  | first :: rest, some most =>
    let others := if i = 0 then rest else rest.set (i - 1) first
    let merged ← others.foldlM (fun dst src => do giveBack src; return mergeClass dst src) most
    return cleanClass merged
  | _, _ => newLeaf .empty

/-- Classes in place of the alternatives that follow each other and match single characters; `run`
holds those that were just seen, last first. -/
def joinClasses : List Tree → List Tree → Build (List Tree)
  | run, [] => close run
  | run, t :: ts => do
    if t.isClass then joinClasses (t :: run) ts
    else
      let done ← close run
      return done ++ t :: (← joinClasses [] ts)
where
  /-- The class of a run. -/
  close (run : List Tree) : Build (List Tree) :=
    match run with
    | [] => return []
    | [t] => return [t]
    | ts => return [← mergeClasses ts.reverse]

/-- The alternatives without those that are empty and come before another empty one. -/
def dropEmpties : List Tree → List Tree
  | t :: s :: ts =>
    if t.op = .empty && s.op = .empty then dropEmpties (s :: ts) else t :: dropEmpties (s :: ts)
  | ts => ts

/-- The alternatives of a run as one; `choice` puts alternatives together. -/
def factorText (choice : List Tree → Build Tree) (r : TextRun) : Build Tree := do
  match r.members with
  | [t] => return t
  | ts =>
    let lead ← newLeaf (.text r.lead.toArray { ignoreCase := r.ignoreCase })
    let rests ← ts.reverse.mapM fun t => do
      let t ← cutLeadingText r.lead.length t
      checkLimits t
      return t
    let rest ← choice rests
    return .node (← newCell) .concat [lead, rest]

/-- The alternatives of a run as one; `choice` puts alternatives together. -/
def factorTree (choice : List Tree → Build Tree) (run : Option Tree × List Tree) : Build Tree := do
  let cut (needed : Bool) (t : Tree) : Build Tree := do
    let t ← cutLeading needed t
    checkLimits t
    return t
  match run.1, run.2.reverse with
  | some lead, t :: u :: ts =>
    let first ← cut true t
    let rests ← (u :: ts).mapM (cut false)
    let rest ← choice (first :: rests)
    return .node (← newCell) .concat [lead, rest]
  | _, t :: _ => return t
  | _, [] => newLeaf .empty

/-- Takes what alternatives that follow each other start with out of them: first common texts, then
common classes; then joins single characters into classes. -/
def factor (choice : List Tree → Build Tree) (ts : List Tree) : Build (List Tree) := do
  if ts.length < 2 then return ts
  let ts ← (ts.foldl addToTextRuns []).reverse.mapM (factorText choice)
  let ts ← (ts.foldl addToTreeRuns []).reverse.mapM (factorTree choice)
  return dropEmpties (← joinClasses [] ts)

/-- One tree for a choice between trees. Every call that goes deeper has taken something off the
alternatives, so the length of the text that was read bounds the depth. -/
def choiceOf : Nat → List Tree → Build Tree
  | _, [t] => return t
  | 0, ts => return .node 0 .choice ts
  | depth + 1, ts => do
    let cell ← newCell
    match ← factor (choiceOf depth) (← hoist .choice ts) with
    | [t] =>
      giveBack (.leaf cell .choice)
      return t
    | ts => return .node cell .choice ts

/-! ## Ends of alternatives and groups -/

/-- Puts the trees above the topmost mark together, one after another. -/
def endSequence : Build Unit := do
  let _ ← joinTexts none
  match ← takeTop with
  | [] => pushLeaf .empty
  | [t] => push t
  | ts => do
    let cell ← newCell
    push (.node cell .concat (← hoist .concat ts))

/-- Puts the trees above the topmost mark together as a choice. -/
def endChoice (depth : Nat) : Build Unit := do
  let ts ← takeTop
  match ts.reverse with
  | [] => pushLeaf .empty
  | last :: before => push (← choiceOf depth ((cleanClass last :: before).reverse))

/-- Moves the tree on top of the stack below the mark of a choice, if there is one right below it. If
the alternative before it and this one match single characters, they become one. Tells whether there
was a mark. -/
def passBar : Build Bool := do
  let st ← get
  match st.stack with
  | top :: bar :: rest =>
    if bar.op ≠ .barMark then return false
    match rest with
    | below :: rest' =>
      if top.isClass && below.isClass then
        let (dst, src) := if classRank top > classRank below then (top, below) else (below, top)
        set { st with stack := bar :: mergeClass dst src :: rest', free := src.cell :: st.free }
        return true
      set { st with stack := bar :: top :: cleanClass below :: rest' }
      return true
    | [] =>
      set { st with stack := bar :: top :: rest }
      return true
  | _ => return false

/-- Ends an alternative and starts the next. -/
def bar : Build Unit := do
  endSequence
  if !(← passBar) then pushLeaf .barMark

/-- Ends the alternatives of the innermost group. -/
def endAlternatives (depth : Nat) : Build Unit := do
  endSequence
  if ← passBar then modify fun st => { st with stack := st.stack.drop 1 }
  endChoice depth

/-- Opens a group. -/
def openGroup (captures : Bool) : Build Unit := do
  pushLeaf (.openMark captures (← get).flags)

/-- Closes the innermost group. -/
def closeGroup (depth : Nat) : Build Unit := do
  endAlternatives depth
  let st ← get
  match st.stack with
  | t :: .node c (.openMark captures outer) _ :: rest =>
    set { st with stack := rest, flags := outer }
    push (if captures then .node c .capture [t] else t)
  | _ => throw .unexpectedParen

/-- Puts a literal character on the stack; where case does not count, it stands for the first of its
case variants. -/
def literal (n : Nat) : Build Unit := do
  let flags := (← get).flags
  let code := if flags.ignoreCase then (caseOrbit n).headD n else n
  pushLeaf (.text #[code] flags)

/-- The number of times that anything may be repeated. -/
def maxRepeats : Nat := 1000

/-- Repeats the tree on top of the stack. Fails if there is none, or if too much is repeated. -/
def repeatTop (op : Op) : Build Unit := do
  let st ← get
  match st.stack with
  | [] => throw .missingOperand
  | t :: rest =>
    if t.isMark then throw .missingOperand
    let r := Tree.node (← newCell) op [t]
    modify fun st => { st with stack := r :: rest }
    checkLimits r
    match op with
    | .repeated min max _ =>
      if Nat.max min (max.getD 0) ≥ 2 && !r.repeatsWithin maxRepeats then throw .repeatCount
    | _ => return ()

end Build

end Pattern

end JavaReview
