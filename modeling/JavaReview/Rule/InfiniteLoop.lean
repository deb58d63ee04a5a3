import JavaReview.Rule
import JavaReview.Rule.Block
import JavaReview.Text.Case

/-!
Loops that never end: an unconditional `while`, `for` or `do` loop whose body has no exit. Lines are
named by their position, counted from 0. A block is given by the line of its opening brace and the
line on which the braces are balanced again.
-/

namespace JavaReview.Rule

open Text

/-- What a loop without an exit is reported with. -/
def infiniteLoopIssue : Issue where
  title := "Likely infinite loop"
  description := "This loop appears unconditional and the body lacks an exit path."
  suggestion := "Add a break/return/throw or make the condition finite."
  category := .error
  severity := .high

/-! ## Headers -/

/-- What follows a condition that always holds: `true` in any case, `1 == 1` or `0 == 0`. -/
def eatAlways? (s : List Char) : Option (List Char) :=
  eatFold? "true".toList s <|> same '1' s <|> same '0' s
where
  /-- What follows a digit, two equals signs and the same digit. -/
  same (d : Char) (s : List Char) : Option (List Char) := do
    let s ← eat? [d] s
    let s ← eat? ['=', '='] (skipBlanks s)
    eat? [d] (skipBlanks s)

/-- What follows `while (true)` and its like. -/
def eatAlwaysWhile? (s : List Char) : Option (List Char) := do
  let s ← eat? "while".toList s
  let s ← eat? ['('] (skipBlanks s)
  let s ← eatAlways? (skipBlanks s)
  eat? [')'] (skipBlanks s)

/-- What follows `for (;;)`. -/
def eatForever? (s : List Char) : Option (List Char) := do
  let s ← eat? "for".toList s
  let s ← eat? ['('] (skipBlanks s)
  let s ← eat? [';'] (skipBlanks s)
  let s ← eat? [';'] (skipBlanks s)
  eat? [')'] (skipBlanks s)

/-- Whether a statement starts with an unconditional `while` or `for`. -/
def isUnconditional (t : Line) : Bool := (eatAlwaysWhile? t).isSome || (eatForever? t).isSome

/-- Whether a statement is the unconditional end of a `do` loop. -/
def isUnconditionalTail (t : Line) : Bool :=
  (eatAlwaysWhile? t).any fun r => (eat? [';'] (skipBlanks r)).isSome

/-- Whether a statement starts a `do` loop. -/
def isDoHeader (t : Line) : Bool :=
  match eat? "do".toList t with
  | none => false
  | some [] => true
  | some (c :: _) => isBlank c || c = '\x7b'

/-- Whether a statement is a `while` that ends in a semicolon. -/
def isWhileTail (t : Line) : Bool := "while".toList.isPrefixOf t && [';'].isSuffixOf t

/-- Whether a loop header has its whole, empty body on its line. -/
def hasNoBody (t : Line) : Bool := [';'].isSuffixOf t && !t.contains '\x7b'

/-! ## Blocks -/

/-- The code of the line at a position. -/
def codeAt (ls : List Line) (i : Nat) : Line := (ls[i]?.getD []).code

/-- The statement on the line at a position. -/
def statementAt (ls : List Line) (i : Nat) : Line := (ls[i]?.getD []).statement

/-- The position of the first line that holds a statement, the first of the lines being at `i`. -/
def firstStatement? (i : Nat) : List Line → Option Nat
  | [] => none
  | l :: r => if l.statement.isEmpty then firstStatement? (i + 1) r else some i

/-- The line of the brace that opens the block of a header: the header itself, or the next line with
a statement if that starts with a brace. -/
def blockOpen? (ls : List Line) (header : Nat) : Option Nat :=
  if (codeAt ls header).contains '\x7b' then some header
  else
    match firstStatement? (header + 1) (ls.drop (header + 1)) with
    | none => none
    | some j => if ['\x7b'].isPrefixOf (statementAt ls j) then some j else none

/-- The first line on which the balance of braces is not positive, the first of the lines being at
`i`; the last line if there is none. -/
def blockEnd (balance : Int) (i : Nat) : List Line → Nat
  | [] => i - 1
  | l :: r =>
    if balance + l.code.braceDelta ≤ 0 then i else blockEnd (balance + l.code.braceDelta) (i + 1) r

/-- The block of the header at a position. -/
def findBlock? (ls : List Line) (header : Nat) : Option (Nat × Nat) :=
  (blockOpen? ls header).map fun start => (start, blockEnd 0 start (ls.drop start))

/-! ## Exits -/

/-- Whether a statement leaves a loop. -/
def isLoopExit (t : Line) : Bool :=
  contains "break;".toList t || "return".toList.isPrefixOf t || "throw ".toList.isPrefixOf t

/-- The lines at the positions from `first` to `last`. -/
def linesBetween (ls : List Line) (first last : Nat) : List Line :=
  (ls.drop first).take (last + 1 - first)

/-- Whether one of the lines from `first` to `last` leaves a loop. -/
def linesHaveExit (ls : List Line) (first last : Nat) : Bool :=
  (linesBetween ls first last).any fun l => isLoopExit l.statement

/-- Whether a block leaves its loop, after its opening brace or on a later line. -/
def blockHasExit (ls : List Line) (start last : Nat) : Bool :=
  let c := codeAt ls start
  isLoopExit (trim ((after? '\x7b' c).getD c)) || linesHaveExit ls (start + 1) last

/-- The first line that ends a statement, the first of the lines being at `i`. -/
def statementEnd? (i : Nat) : List Line → Option Nat
  | [] => none
  | l :: r =>
    if [';'].isSuffixOf l.statement || ['\x7d'].isSuffixOf l.statement then some i
    else statementEnd? (i + 1) r

/-- The last line of the statement that starts at `start`: the first line from there that ends one,
else that line itself if there is one. -/
def statementEnd (ls : List Line) (start : Nat) : Nat :=
  (statementEnd? start (ls.drop start)).getD (min start (ls.length - 1))

/-! ## The end of a do loop -/

/-- What stands after the last closing brace of a line, or all of it. -/
def afterBrace (l : Line) : Line := trim ((afterLast? '\x7d' l).getD l)

/-- The statement that closes a `do` loop whose block ends at a position, and its line: it stands
after the closing brace or, if nothing does, on the first of the next two lines that is not
empty. -/
def doTail? (ls : List Line) (last : Nat) : Option (Nat × Line) :=
  let t := afterBrace (codeAt ls last)
  if !t.isEmpty then some (last, t)
  else
    (firstStatement? (last + 1) ((ls.drop (last + 1)).take 2)).map fun j => (j, statementAt ls j)

/-- The `while` that closes a `do` loop whose block ends at a position. -/
def doWhile? (ls : List Line) (last : Nat) : Option (Nat × Line) :=
  (doTail? ls last).filter fun e => isWhileTail e.2

/-! ## The scan -/

/-- What the scan does at a header: whether it is reported, and the position from which the scan
goes on. -/
structure LoopVerdict where
  reported : Bool
  resume : Nat

/-- The verdict on an unconditional `while` or `for` at a position. -/
def judgeLoop (ls : List Line) (i : Nat) (t : Line) : LoopVerdict :=
  if hasNoBody t then ⟨true, i + 1⟩
  else
    match findBlock? ls i with
    | none => ⟨!linesHaveExit ls (i + 1) (statementEnd ls (i + 1)), i + 1⟩
    | some (start, last) => ⟨!blockHasExit ls start last, last + 1⟩

/-- The verdict on a `do` loop at a position. -/
def judgeDo (ls : List Line) (i : Nat) : LoopVerdict :=
  match findBlock? ls i with
  | none => ⟨false, i + 1⟩
  | some (start, last) =>
    match doWhile? ls last with
    | none => ⟨false, last + 1⟩
    | some (j, t) => ⟨isUnconditionalTail t && !blockHasExit ls start last, j + 1⟩

/-- The verdict on a statement at a position. -/
def judge (ls : List Line) (i : Nat) (t : Line) : LoopVerdict :=
  if isUnconditional t then judgeLoop ls i t
  else if isDoHeader t then judgeDo ls i
  else ⟨false, i + 1⟩

/-- Whether a block comment covers a line, given whether one was open before it. -/
def inBlockComment (wasOpen : Bool) (l : Line) : Bool := wasOpen || contains ['/', '*'] l.code

/-- Whether a block comment is open after a line that one covers. -/
def commentStaysOpen (l : Line) : Bool := !contains ['*', '/'] l.code

/-- The positions that are reported, the first of the remaining lines being at `i`. Lines before
`resume` belong to a loop that was judged, and are passed over. -/
def infiniteLoops (ls : List Line) (resume : Nat) (comment : Bool) (i : Nat) :
    List Line → List Nat
  | [] => []
  | l :: r =>
    if i < resume then infiniteLoops ls resume comment (i + 1) r
    else if inBlockComment comment l then infiniteLoops ls resume (commentStaysOpen l) (i + 1) r
    else
      let v := judge ls i l.statement
      (if v.reported then [i] else []) ++ infiniteLoops ls v.resume false (i + 1) r

/-- Unconditional loops without an exit. -/
def infiniteLoop : Rule :=
  .ofLines "infinite-loop" "while(true), for(;;) and do/while(true) loops with no break, return or throw."
    fun ls => (infiniteLoops ls 0 false 0 ls).map fun i => infiniteLoopIssue.atLine (i + 1)

end JavaReview.Rule
