/-!
Session tokens: bytes in base 64, with an alphabet that needs no escape in an address, and without
padding.
-/

namespace JavaReview.Token

/-- The digits of base 64. -/
def alphabet : List Char :=
  "ABCDEFGHIJKLMNOPQRSTUVWXYZabcdefghijklmnopqrstuvwxyz0123456789-_".toList

/-- One digit. -/
def digit (n : Nat) : Char := alphabet[n % 64]?.getD 'A'

/-- The digits of bytes, four for every three bytes. -/
def encode : List Nat → List Char
  | [] => []
  | [a] => [digit (a / 4), digit (a % 4 * 16)]
  | [a, b] => [digit (a / 4), digit (a % 4 * 16 + b / 16), digit (b % 16 * 4)]
  | a :: b :: c :: r =>
    digit (a / 4) :: digit (a % 4 * 16 + b / 16) :: digit (b % 16 * 4 + c / 64) :: digit (c % 64) ::
      encode r

/-- The token of bytes. -/
def ofBytes (bytes : List Nat) : String := String.ofList (encode bytes)

end JavaReview.Token
