import JavaReview.Text.Case

/-!
JSON values. The fields of an object keep their order and may repeat, since both show: written
objects list their fields in a fixed order, and of two fields with one name the later one counts.
-/

namespace JavaReview

/-- A JSON value. A number that is no integer is kept as it is written. -/
inductive Json where
  | null
  | bool (b : Bool)
  | int (n : Int)
  | real (text : String)
  | str (s : String)
  | arr (items : List Json)
  | obj (fields : List (String × Json))

namespace Json

/-- An array of the images of a list, or `null` for no list. -/
def ofList? {α : Type} (f : α → Json) : Option (List α) → Json
  | none => .null
  | some l => .arr (l.map f)

/-- The pair as the only field of a list, or no field. -/
def fieldIf (keep : Bool) (name : String) (v : Json) : List (String × Json) :=
  if keep then [(name, v)] else []

/-- Whether a key of an object names this field: keys are compared up to case. -/
def namesField (key name : String) : Bool := Text.equalFold key.toList name.toList

/-- The text fields of a record, by name, after reading one more key and value: a `null` changes
nothing and any other value that is no text is refused. Keys without a field are ignored. -/
def putText (known : List (String × String)) (key : String) : Json → Option (List (String × String))
  | .str s => some (known.map fun e => if namesField key e.1 then (e.1, s) else e)
  | .null => some known
  | _ => if known.any (fun e => namesField key e.1) then none else some known

/-- Reads a record of text fields, all empty at first. The value `null` is the empty record. -/
def texts? (names : List String) : Json → Option (List (String × String))
  | .null => some (names.map fun n => (n, ""))
  | .obj fields => fields.foldlM (fun known f => putText known f.1 f.2) (names.map fun n => (n, ""))
  | _ => none

/-- The value of a text field of a record that was read. -/
def textOf (record : List (String × String)) (name : String) : String := (record.lookup name).getD ""

/-- Reads an object of flags. Of fields with one name the last counts, a `null` counts as false, and
the value `null` is the empty object. -/
def flags? : Json → Option (List (String × Bool))
  | .null => some []
  | .obj fields => fields.foldlM put []
  | _ => none
where
  /-- The flags after one more field. -/
  put (known : List (String × Bool)) (f : String × Json) : Option (List (String × Bool)) :=
    match f.2 with
    | .bool b => some (known.filter (·.1 != f.1) ++ [(f.1, b)])
    | .null => some (known.filter (·.1 != f.1) ++ [(f.1, false)])
    | _ => none

end Json

end JavaReview
