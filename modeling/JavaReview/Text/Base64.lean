/-!
Bytes written with letters of the base of 64, four letters for three bytes. Line breaks are passed
over, and equals signs fill the last group.
-/

namespace JavaReview.Text

/-- The value of a letter. -/
def base64Digit? (b : Nat) : Option Nat :=
  if 0x41 ≤ b && b ≤ 0x5A then some (b - 0x41)
  else if 0x61 ≤ b && b ≤ 0x7A then some (b - 0x61 + 26)
  else if 0x30 ≤ b && b ≤ 0x39 then some (b - 0x30 + 52)
  else if b = 0x2B then some 62
  else if b = 0x2F then some 63
  else none

/-- The bytes that a group of letters writes, one less than there are letters. -/
def base64Bytes : List Nat → List Nat
  | [a, b] => [4 * a + b / 16]
  | [a, b, c] => [4 * a + b / 16, b % 16 * 16 + c / 4]
  | [a, b, c, d] => [4 * a + b / 16, b % 16 * 16 + c / 4, c % 4 * 64 + d]
  | _ => []

/-- A carriage return or a line feed. -/
def isLineByte (b : Nat) : Bool := b = 0x0A || b = 0x0D

/-- The place after line breaks, and what follows them. -/
def skipLineBytes (place : Nat) (s : List Nat) : Nat × List Nat :=
  let r := s.dropWhile isLineByte
  (place + (s.length - r.length), r)

/-- The last group, after an equals sign at a place: nothing but a second one and line breaks may
follow it. -/
def finishBase64 (place : Nat) (group rest : List Nat) : Except Nat (List Nat) := do
  if group.length < 2 then throw place
  let (next, rest) := skipLineBytes (place + 1) rest
  let (next, rest) ←
    if group.length > 2 then pure (next, rest)
    else
      match rest with
      | [] => throw next
      | b :: r => if b = 0x3D then pure (skipLineBytes (next + 1) r) else throw (next - 1)
  if rest.isEmpty then return base64Bytes group else throw next

/-- The bytes that letters write from a place on, after the letters of a group; an error is the place
that is wrong. -/
def decodeBase64From (place : Nat) (group : List Nat) : List Nat → Except Nat (List Nat)
  | [] => if group.isEmpty then .ok [] else .error (place - group.length)
  | b :: r =>
    match base64Digit? b with
    | some d =>
      if group.length < 3 then decodeBase64From (place + 1) (group ++ [d]) r
      else do return base64Bytes (group ++ [d]) ++ (← decodeBase64From (place + 1) [] r)
    | none =>
      if isLineByte b then decodeBase64From (place + 1) group r
      else if b = 0x3D then finishBase64 place group r
      else .error place

/-- The bytes that letters write; an error is the place that is wrong. -/
def decodeBase64 (letters : List Nat) : Except Nat (List Nat) := decodeBase64From 0 [] letters

end JavaReview.Text
