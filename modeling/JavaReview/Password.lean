import JavaReview.Text.Bytes

/-!
Passwords. What is kept of a password is the key that its bytes give: the bytes and a zero byte, over
and over, up to 72 bytes. The hash of a key is taken to tell any two keys apart, so that a try is
right exactly if it gives the same key.
-/

namespace JavaReview

/-- Why a password was refused. -/
inductive PasswordError where
  | tooShort
  | tooLong
deriving DecidableEq, Repr

/-- What is kept for a user: the key of a password, or a text that no password gives. -/
inductive PasswordHash where
  | ofKey (key : List Nat)
  | foreign (text : String)
deriving DecidableEq, Repr

namespace Password

/-- The least number of bytes of a password. -/
def minBytes : Nat := 8

/-- The number of bytes of a key, and the greatest of a password. -/
def keyBytes : Nat := 72

/-- The first `n` items of a list repeated without end; `rest` is left of the current round. -/
def cycleFrom (l : List Nat) : Nat → List Nat → List Nat
  | 0, _ => []
  | n + 1, b :: rest => b :: cycleFrom l n rest
  | n + 1, [] =>
    match l with
    | [] => []
    | b :: rest => b :: cycleFrom l n rest

/-- The key of a password. -/
def key (password : String) : List Nat :=
  let bytes := Text.bytes password.toList ++ [0]
  cycleFrom bytes keyBytes bytes

/-- The hash of a password that is neither too short nor too long. -/
def hash (password : String) : Except PasswordError PasswordHash :=
  if byteSize password < minBytes then .error .tooShort
  else if byteSize password > keyBytes then .error .tooLong
  else .ok (.ofKey (key password))

/-- Whether a try gives the key of a hash. -/
def check : PasswordHash → String → Bool
  | .ofKey k, attempt => k == key attempt
  | .foreign _, _ => false

end Password

namespace PasswordError

/-- The text of a refusal. -/
def message : PasswordError → String
  | tooShort => "password too short: need at least 8 characters"
  | tooLong => "bcrypt: password length exceeds 72 bytes"

end PasswordError

end JavaReview
