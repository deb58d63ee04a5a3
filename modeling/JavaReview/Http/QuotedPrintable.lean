import JavaReview.Text.Bytes
import JavaReview.Text.Unicode.Ranges

/-!
Contents written with printable characters: an equals sign and two digits stand for a byte, an equals
sign at the end of a line joins it with the next one, and blanks at the end of a line do not count.
-/

namespace JavaReview.Http.QuotedPrintable

open Text.Unicode (hexDigit?)

/-- The longest line, in bytes. -/
def maxLine : Nat := 4096

/-- Line feed, carriage return, space and tab. -/
def isBlankByte (b : Nat) : Bool := b = 0x0A || b = 0x0D || b = 0x20 || b = 0x09

/-- The byte that two digits write. -/
def escapedByte? (a b : Nat) : Option Nat := do
  return 16 * (← hexDigit? (Char.ofNat a)) + (← hexDigit? (Char.ofNat b))

/-- Whether a byte may stand for itself. -/
def isPlain (b : Nat) : Bool :=
  b = 0x09 || b = 0x0D || b = 0x0A || (0x20 ≤ b && b ≠ 0x7F)

/-- The bytes of a line. An equals sign that starts no escape stands for itself inside a line. -/
def lineBytes? : List Nat → Option (List Nat)
  | [] => some []
  | 0x3D :: a :: b :: r =>
    match escapedByte? a b with
    | some x => (lineBytes? r).map (x :: ·)
    | none => if a = 0x0D || a = 0x0A then none else (lineBytes? (a :: b :: r)).map (0x3D :: ·)
  | b :: r =>
    if b = 0x3D && (r.isEmpty || r.head? == some 0x0D || r.head? == some 0x0A) then none
    else if isPlain b then (lineBytes? r).map (b :: ·)
    else none

/-- The bytes without the blanks at their end. -/
def trimEnd (s : List Nat) : List Nat := (s.reverse.dropWhile isBlankByte).reverse

/-- The bytes that a line with its line break stands for; the last line may have none. -/
def decodeLine? (whole : List Nat) : Option (List Nat) :=
  let line := trimEnd whole
  let after := whole.drop line.length
  let ends := whole.getLast? == some 0x0A
  if whole.length > maxLine || (!ends && whole.length = maxLine) then none
  else if line.getLast? == some 0x3D then
    if after.head? == some 0x0A || after.take 2 == [0x0D, 0x0A] || (after.isEmpty && line.length > 1) then
      lineBytes? line.dropLast
    else none
  else if !ends then lineBytes? line
  else lineBytes? (line ++ if after.drop (after.length - 2) == [0x0D, 0x0A] then [0x0D, 0x0A] else [0x0A])

/-- The lines of bytes, each with its line feed. -/
def linesFrom (line : List Nat) : List Nat → List (List Nat)
  | [] => if line.isEmpty then [] else [line.reverse]
  | b :: r => if b = 0x0A then (b :: line).reverse :: linesFrom [] r else linesFrom (b :: line) r

/-- The content that a text writes. -/
def decode? (s : List Char) : Option (List Char) := do
  return Text.ofBytes (← (linesFrom [] (Text.bytes s)).mapM decodeLine?).flatten

end JavaReview.Http.QuotedPrintable
