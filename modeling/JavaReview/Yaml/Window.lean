/-!
How much of a YAML text has been taken in. A text is taken in piece by piece, each piece as large as
its bytes allow, and only when a character is needed that is not there yet. A character that may not
stand in a text at all is noticed when its piece is taken in, and not before.
-/

namespace JavaReview.Yaml

/-- Whether a character may stand in a text at all. -/
def isAllowed (c : Char) : Bool :=
  let n := c.toNat
  n = 0x09 || n = 0x0A || n = 0x0D || (0x20 ≤ n && n ≤ 0x7E) || n = 0x85 ||
    (0xA0 ≤ n && n ≤ 0xFFFD) || 0x10000 ≤ n

/-- The mark that may start a text or a line. -/
def byteOrderMark : Char := Char.ofNat 0xFEFF

/-- What has been taken in of a text: the numbers of characters of the pieces to come, whether the one
after these has a character that is not allowed, the number of characters taken in, and how often more
was asked for at the end. `marked` tells whether the characters that were left when more was last taken
in, and what was taken in then, start with a byte order mark; `broken` tells whether a character was
met that is not allowed. -/
structure Window where
  pieces : List Nat
  spoiled : Bool
  taken : Nat := 0
  beyond : Nat := 0
  marked : Bool := false
  broken : Bool := false

namespace Window

/-- The number of bytes of a piece. -/
def pieceSize : Nat := 512

/-- The pieces of a text: those before the first one that has a character that is not allowed, and
whether there is such a piece. The current piece has `count` characters and `room` for more bytes. -/
def piecesFrom (room count : Nat) : List Char → List Nat × Bool
  | [] => (if count = 0 then [] else [count], false)
  | c :: r =>
    if c.utf8Size ≤ room then
      if isAllowed c then piecesFrom (room - c.utf8Size) (count + 1) r else ([], true)
    else
      let (later, spoiled) :=
        if isAllowed c then piecesFrom (pieceSize - c.utf8Size) 1 r else ([], true)
      (count :: later, spoiled)

/-- The window on a text, of whose first piece some bytes are used up already. -/
def ofText (used : Nat) (text : List Char) : Window :=
  let (pieces, spoiled) := piecesFrom (pieceSize - used) 0 text
  { pieces, spoiled }

/-- Takes pieces in until a number of characters is there. -/
def takeUpTo (target : Nat) : List Nat → Window → Window
  | [], w =>
    if w.spoiled then { w with pieces := [], broken := true }
    else { w with pieces := [], beyond := w.beyond + 1 }
  | p :: ps, w =>
    let w := { w with pieces := ps, taken := w.taken + p }
    if target ≤ w.taken then w else takeUpTo target ps w

/-- Sees to it that a number of characters is there. `atMark` tells whether the next character is a
byte order mark. -/
def need (w : Window) (target : Nat) (atMark : Bool) : Window :=
  if target ≤ w.taken + w.beyond then w
  else { takeUpTo target w.pieces w with marked := atMark }

end Window

end JavaReview.Yaml
