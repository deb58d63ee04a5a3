import JavaReview.Json.Number

/-!
Whether a JSON value is what it is read as, and where it is not. A `null` fits everything, and fields
that a record does not have are passed over.
-/

namespace JavaReview.Json

/-- What a value is read as: a text, a flag, an object with values of one kind, or a record. The place
of what an aside holds is told without the place of the aside. -/
inductive Fit where
  | any
  | text (type : String)
  | flag
  | map (type : String) (item : Fit)
  | aside (inner : Fit)
  | record (type : String) (fields : List (String × Fit))

/-- A value that is not what it is read as: its kind, the place of the value and the type of the place,
under the type of the whole. -/
structure Misfit where
  root : String
  place : List String
  value : String
  type : String
deriving DecidableEq, Repr

namespace Misfit

/-- The text of a misfit. -/
def message (m : Misfit) : String :=
  let target :=
    if m.root = "" && m.place.isEmpty then "Go value"
    else "Go struct field " ++ m.root ++ "." ++ String.intercalate "." m.place
  "json: cannot unmarshal " ++ m.value ++ " into " ++ target ++ " of type " ++ m.type

end Misfit

/-- The word for the kind of a value. -/
def kindWord : Json → String
  | .null => "null"
  | .bool _ => "bool"
  | .int _ | .real _ => "number"
  | .str _ => "string"
  | .arr _ => "array"
  | .obj _ => "object"

/-- An object with values of any kind. -/
def Fit.object : Fit := .map "map[string]interface \x7b\x7d" .any

/-- An object of flags. -/
def Fit.flags : Fit := .map "map[string]bool" .flag

/-- The name of the type of numbers of any kind. -/
def numberType : String := "float64"

/-- What the field of a record that a key names is read as: a field that is written like it, or else
one that is equal up to case. -/
def fieldFit? (fields : List (String × Fit)) (key : String) : Option Fit :=
  match fields.lookup key with
  | some fit => some fit
  | none => (fields.find? fun f => namesField key f.1).map (·.2)

/-- The misfit of a value of another kind. -/
def mismatch (root : String) (place : List String) (fit : Fit) (v : Json) : Option Misfit :=
  match fit with
  | .any => none
  | .text type => some ⟨root, place, kindWord v, type⟩
  | .flag => some ⟨root, place, kindWord v, "bool"⟩
  | .map type _ => some ⟨root, place, kindWord v, type⟩
  | .aside inner => mismatch "" [] inner v
  | .record type _ => some ⟨root, place, kindWord v, type⟩

/-- The first of two misfits. -/
def firstMisfit (m : Option Misfit) (later : Unit → Option Misfit) : Option Misfit :=
  match m with
  | some x => some x
  | none => later ()

mutual

/-- The first misfit of a value at a place. -/
def misfit? (root : String) (place : List String) (fit : Fit) : Json → Option Misfit
  | .null => none
  | .int n =>
    match fit with
    | .any =>
      if (binary? (.int n)).isSome then none
      else some ⟨root, place, "number " ++ decimal n, numberType⟩
    | fit => mismatch root place fit (.int n)
  | .real t =>
    match fit with
    | .any =>
      if (binary? (.real t)).isSome then none else some ⟨root, place, "number " ++ t, numberType⟩
    | fit => mismatch root place fit (.real t)
  | .arr items =>
    match fit with
    | .any => misfitItem? root place 0 items
    | fit => mismatch root place fit (.arr items)
  | .obj fields =>
    match fit with
    | .any => misfitField? root place (fun _ => some .any) fields
    | .map _ item => misfitField? root place (fun _ => some item) fields
    | .aside (.map _ item) => misfitField? "" [] (fun _ => some item) fields
    | .record _ fits => misfitField? root place (fieldFit? fits) fields
    | fit => mismatch root place fit (.obj fields)
  | v =>
    match fit, v with
    | .any, _ | .text _, .str _ | .flag, .bool _ => none
    | fit, v => mismatch root place fit v

/-- The first misfit of the items of an array of values of any kind. -/
def misfitItem? (root : String) (place : List String) (index : Nat) : List Json → Option Misfit
  | [] => none
  | v :: r =>
    firstMisfit (misfit? root (place ++ [decimal index]) .any v)
      fun _ => misfitItem? root place (index + 1) r

/-- The first misfit of fields, each read as its key asks or passed over. -/
def misfitField? (root : String) (place : List String) (fits : String → Option Fit) :
    List (String × Json) → Option Misfit
  | [] => none
  | f :: r => firstMisfit (misfitOf? root place fits f) fun _ => misfitField? root place fits r

/-- The misfit of a field. -/
def misfitOf? (root : String) (place : List String) (fits : String → Option Fit) :
    String × Json → Option Misfit
  | (key, v) =>
    match fits key with
    | none => none
    | some fit => misfit? root (place ++ [key]) fit v

end

end JavaReview.Json
