import JavaReview.Pattern.Program

/-!
One-pass programs: those that start at the start of the text and where the next character always tells
which way a fork goes. Which programs are such is decided by looking at the characters that lead on
from every fork.
-/

namespace JavaReview.Pattern.Program

open Text.Unicode

/-- Whether an instruction is a fork. -/
def isFork (p : Program) (n : Nat) : Bool :=
  match p.inst n with
  | .fork .. => true
  | _ => false

/-- Whether an instruction ends a run. -/
def isEnd (p : Program) (n : Nat) : Bool :=
  match p.inst n with
  | .done => true
  | _ => false

/-- Whether a program starts with the assertion that the text starts. -/
def isAnchored (p : Program) : Bool :=
  match p.inst p.start with
  | .assert .textStart _ => true
  | _ => false

/-- Whether a run can end only where it is seen to: no fork leads to the end, no assertion but that the
text ends, and nothing else if there are forks. -/
def endsClearly (p : Program) : Bool :=
  let forks := (List.range p.insts.size).any p.isFork
  p.insts.all fun i =>
    match i with
    | .fork a b => !p.isEnd a && !p.isEnd b
    | .assert a n => !p.isEnd n || a = .textEnd
    | .skip _ n | .char _ _ n => !p.isEnd n || !forks
    | .fail | .done => true

/-- A fork whose one way leads to another fork, with that fork: the one that leads back to it goes on
where the first one goes, and ways to the same place are taken at once. -/
def shortcut (p : Program) (n : Nat) : Program :=
  match p.inst n with
  | .fork a b =>
    let viaSecond := p.isFork b
    if !viaSecond && !p.isFork a then p
    else
      let (fork, other) := if viaSecond then (b, a) else (a, b)
      if p.isFork other then p
      else
        match p.inst fork with
        | .fork c d =>
          let back := if c = n then true else d = n
          let swapped := c ≠ n && d = n
          let c' := if back && !swapped then other else c
          let d' := if back && swapped then other else d
          let p : Program := { p with insts := p.insts.setIfInBounds fork (.fork c' d') }
          let (near, far) := if swapped then (d', c') else (c', d')
          if other = near then
            let i := if viaSecond then .fork a far else .fork far b
            { p with insts := p.insts.setIfInBounds n i }
          else p
        | _ => p
  | _ => p

/-- The program with shortcuts at all forks. -/
def shortened (p : Program) : Program := (List.range p.insts.size).foldl shortcut p

/-- The members of two sets, each in order, if no interval of one meets one of the other; `last` is the
greatest member so far. -/
def mergeApart : Nat → Option Nat → List (Nat × Nat) → List (Nat × Nat) → Option (List (Nat × Nat))
  | 0, _, _, _ => none
  | fuel + 1, last, s, t =>
    let put (e : Nat × Nat) (s t : List (Nat × Nat)) : Option (List (Nat × Nat)) :=
      if last.any fun l => e.1 ≤ l then none
      else (mergeApart fuel (some e.2) s t).map (e :: ·)
    match s, t with
    | [], [] => some []
    | e :: s, [] => put e s []
    | [], e :: t => put e [] t
    | a :: s, b :: t => if b.1 < a.1 then put b (a :: s) t else put a s (b :: t)

/-- What is known while a program is looked through: the program, whose forks may have been turned
round, the instructions from which the end is reached without reading on, the characters that lead on
from each, the character instructions that were seen, and those that follow them. -/
structure Survey where
  program : Program
  ending : Array Bool
  chars : Array (List (Nat × Nat))
  seen : Array Bool
  queue : List Nat := []
  queued : List Nat := []

/-- A step of looking through a program, which fails where it is not clear how to go on. -/
abbrev Look := StateT Survey Option

/-- Sets what is known of an instruction. -/
def note (n : Nat) (ends : Bool) (cs : List (Nat × Nat)) : Look Unit :=
  modify fun s =>
    { s with ending := s.ending.setIfInBounds n ends, chars := s.chars.setIfInBounds n cs }

/-- Whether the end is reached from an instruction without reading on. -/
def endsAt (n : Nat) : Look Bool := return ((← get).ending[n]?).getD false

/-- The characters that lead on from an instruction. -/
def charsAt (n : Nat) : Look (List (Nat × Nat)) := return ((← get).chars[n]?).getD []

/-- Puts an instruction into the queue, once. -/
def enqueue (n : Nat) : Look Unit :=
  modify fun s =>
    if s.queued.contains n then s else { s with queue := s.queue ++ [n], queued := n :: s.queued }

/-- Looks at an instruction and at those that follow it without reading on; `visited` are those that
were looked at on the way and beside it. Every call looks at one that is new, so their number bounds the
depth. -/
def survey : Nat → Nat → List Nat → Look (List Nat)
  | 0, _, visited => return visited
  | depth + 1, n, visited => do
    if visited.contains n then return visited
    let visited := n :: visited
    match (← get).program.inst n with
    | .fork a b =>
      let visited ← survey depth a visited
      let visited ← survey depth b visited
      let endsA ← endsAt a
      let endsB ← endsAt b
      if endsA && endsB then failure
      let (a, b) := if endsB then (b, a) else (a, b)
      modify fun s =>
        { s with program.insts := s.program.insts.setIfInBounds n (.fork a b) }
      let (s, t) := (← charsAt a, ← charsAt b)
      let some cs := mergeApart (s.length + t.length + 1) none s t | failure
      let endsHere ← endsAt n
      note n (endsHere || endsA || endsB) cs
      return visited
    | .skip _ m | .assert _ m =>
      let visited ← survey depth m visited
      note n (← endsAt m) (← charsAt m)
      return visited
    | .done =>
      note n true (← charsAt n)
      return visited
    | .fail =>
      note n false (← charsAt n)
      return visited
    | .char set _ m =>
      modify fun s => { s with ending := s.ending.setIfInBounds n false }
      if ((← get).seen[n]?).getD false then return visited
      enqueue m
      note n false set.spans
      modify fun s => { s with seen := s.seen.setIfInBounds n true }
      return visited

/-- Looks at all instructions in the queue; none comes into it twice. -/
def surveyAll : Nat → Look Unit
  | 0 => return ()
  | rounds + 1 => do
    match (← get).queue with
    | [] => return ()
    | n :: queue =>
      modify fun s => { s with queue }
      let _ ← survey ((← get).program.insts.size + 1) n []
      surveyAll rounds

/-- The greatest number of instructions of a one-pass program, and one more. -/
def onePassLimit : Nat := 1000

/-- Whether a program is one-pass. -/
def isOnePass (p : Program) : Bool :=
  if !p.isAnchored || !p.endsClearly || p.insts.size ≥ onePassLimit then false
  else
    let size := p.insts.size
    let s : Survey :=
      { program := p.shortened
        ending := Array.replicate size false
        chars := Array.replicate size []
        seen := Array.replicate size false
        queue := [p.start]
        queued := [p.start] }
    ((surveyAll (size + 1)).run s).isSome

/-- The code points that every match of an anchored program starts with, and the instruction after
them. -/
def fixedStart (p : Program) : List Nat × Nat :=
  match p.inst p.start with
  | .assert .textStart n => gather (p.insts.size + 1) (skipEmpty (p.insts.size + 1) n)
  | _ => ([], p.start)
where
  /-- The first instruction that does something. -/
  skipEmpty : Nat → Nat → Nat
    | 0, n => n
    | rounds + 1, n =>
      match p.inst n with
      | .skip false m => skipEmpty rounds m
      | _ => n
  /-- The single code points from an instruction on. -/
  gather : Nat → Nat → List Nat × Nat
    | 0, n => ([], n)
    | rounds + 1, n =>
      match p.inst n with
      | .char _ (some c) m =>
        if c = 0xFFFD then ([], n)
        else
          let (cs, e) := gather rounds m
          (c :: cs, e)
      | _ => ([], n)

end JavaReview.Pattern.Program
