/-!
Text as bytes. Sizes and cuts are counted in the bytes of the UTF-8 encoding, so a cut can fall
inside a character.
-/

namespace JavaReview.Text

/-- The number of bytes of a character. -/
def byteWidth (c : Char) : Nat :=
  let n := c.toNat
  if n < 0x80 then 1 else if n < 0x800 then 2 else if n < 0x10000 then 3 else 4

/-- The bytes of a character. -/
def charBytes (c : Char) : List Nat :=
  let n := c.toNat
  if n < 0x80 then [n]
  else if n < 0x800 then [0xC0 + n / 64, 0x80 + n % 64]
  else if n < 0x10000 then [0xE0 + n / 4096, 0x80 + n / 64 % 64, 0x80 + n % 64]
  else [0xF0 + n / 262144, 0x80 + n / 4096 % 64, 0x80 + n / 64 % 64, 0x80 + n % 64]

/-- The bytes of a text. -/
def bytes (s : List Char) : List Nat := s.flatMap charBytes

/-- The number of bytes of a text. -/
def byteLength (s : List Char) : Nat := s.foldl (fun n c => n + byteWidth c) 0

/-- What stands for a byte that belongs to no whole character. -/
def replacement : Char := Char.ofNat 0xFFFD

/-- The first `n` bytes of a text. A character cut through becomes one replacement character for
each of its bytes that are left. -/
def takeBytes : Nat → List Char → List Char
  | _, [] => []
  | n, c :: r =>
    if byteWidth c ≤ n then c :: takeBytes (n - byteWidth c) r
    else List.replicate n replacement

/-- The character that starts with a byte of a longer encoding, if the bytes after it are right, and
how many bytes it takes. -/
def decodeLong? (a : Nat) (r : List Nat) : Option (Char × Nat) :=
  let cont (b : Nat) : Bool := 0x80 ≤ b && b < 0xC0
  match r with
  | b :: r =>
    if !cont b then none
    else if 0xC2 ≤ a && a < 0xE0 then some (Char.ofNat (a % 32 * 64 + b % 64), 2)
    else
      match r with
      | c :: r =>
        let n := a % 16 * 4096 + b % 64 * 64 + c % 64
        if 0xE0 ≤ a && a < 0xF0 then
          if cont c && 0x800 ≤ n && !(0xD800 ≤ n && n < 0xE000) then some (Char.ofNat n, 3) else none
        else
          match r with
          | d :: _ =>
            let n := a % 8 * 262144 + b % 64 * 4096 + c % 64 * 64 + d % 64
            if 0xF0 ≤ a && a < 0xF8 && cont c && cont d && 0x10000 ≤ n && n < 0x110000 then
              some (Char.ofNat n, 4)
            else none
          | [] => none
      | [] => none
  | [] => none

/-- The text of bytes. A byte that belongs to no character becomes a replacement character. The
number of bytes bounds the number of characters. -/
def decodeBytes : Nat → List Nat → List Char
  | 0, _ => []
  | _, [] => []
  | fuel + 1, a :: r =>
    if a < 0x80 then Char.ofNat a :: decodeBytes fuel r
    else
      match decodeLong? a r with
      | some (c, n) => c :: decodeBytes fuel (r.drop (n - 1))
      | none => replacement :: decodeBytes fuel r

/-- The text of bytes. -/
def ofBytes (bs : List Nat) : List Char := decodeBytes bs.length bs

end JavaReview.Text

namespace JavaReview

/-- The number of bytes of a text. -/
def byteSize (s : String) : Nat := Text.byteLength s.toList

end JavaReview
