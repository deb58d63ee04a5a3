import JavaReview.Text.Case
import JavaReview.Text.Unicode.Category
import JavaReview.Text.Unicode.Script

/-!
Classes of characters, as they are written in patterns: ranges, groups with a name, Unicode
properties. A class may be read up to case, and may be negated as a whole. What is left of it is a set
of code points.
-/

namespace JavaReview.Pattern

open Text Text.Unicode

/-- A set with the case variants of its members. -/
def withCase (r : Ranges) : Ranges :=
  r.union ⟨(caseOrbits.filter fun o => o.any r.has).flatMap fun o => o.map fun n => (n, n)⟩

/-- A part of a class: a set, or all that is not in the set. Where case does not count, the set takes
in the case variants of its members, unless it is one that case leaves alone. -/
structure CharGroup where
  ranges : Ranges
  negated : Bool := false
  caseless : Bool := false

/-- The members of a group. -/
def CharGroup.members (ignoreCase : Bool) (g : CharGroup) : Ranges :=
  let r := if ignoreCase && !g.caseless then withCase g.ranges else g.ranges
  if g.negated then r.complement else r

/-- The class that groups make together, in normal form. -/
def classOf (ignoreCase negated : Bool) (groups : List CharGroup) : Ranges :=
  let r : Ranges := ⟨groups.flatMap fun g => (g.members ignoreCase).spans⟩
  if negated then r.complement else r.normal

/-- All code points. -/
def anyRanges : Ranges := .span 0 Ranges.lastCode

/-- All code points but the line feed. -/
def notNewlineRanges : Ranges := ⟨[(0, 9), (11, Ranges.lastCode)]⟩

/-! ## Groups with a name -/

/-- Decimal digits. -/
def digitRanges : Ranges := .ofText "30-39"

/-- Tab, line feed, form feed, carriage return and space. -/
def blankRanges : Ranges := .ofText "9-A C-D 20"

/-- Letters, digits and the underscore. -/
def wordRanges : Ranges := .ofText "30-39 41-5A 5F 61-7A"

/-- The group that a letter after a backslash stands for. -/
def escapeGroup? (c : Char) : Option CharGroup :=
  match c with
  | 'd' => some { ranges := digitRanges }
  | 'D' => some { ranges := digitRanges, negated := true }
  | 's' => some { ranges := blankRanges }
  | 'S' => some { ranges := blankRanges, negated := true }
  | 'w' => some { ranges := wordRanges }
  | 'W' => some { ranges := wordRanges, negated := true }
  | _ => none

/-- The ASCII groups that go by a name between colons. -/
def namedRanges : List (String × Ranges) := [
  ("alnum", .ofText "30-39 41-5A 61-7A"),
  ("alpha", .ofText "41-5A 61-7A"),
  ("ascii", .ofText "0-7F"),
  ("blank", .ofText "9 20"),
  ("cntrl", .ofText "0-1F 7F"),
  ("digit", digitRanges),
  ("graph", .ofText "21-7E"),
  ("lower", .ofText "61-7A"),
  ("print", .ofText "20-7E"),
  ("punct", .ofText "21-2F 3A-40 5B-60 7B-7E"),
  ("space", .ofText "9-D 20"),
  ("upper", .ofText "41-5A"),
  ("word", wordRanges),
  ("xdigit", .ofText "30-39 41-46 61-66")]

/-- The group of a name, which a caret negates. -/
def namedGroup? (name : List Char) : Option CharGroup :=
  match name with
  | '^' :: r => (namedRanges.lookup (String.ofList r)).map fun g => { ranges := g, negated := true }
  | r => (namedRanges.lookup (String.ofList r)).map fun g => { ranges := g }

/-! ## Unicode properties -/

/-- A name without case, blanks, hyphens and underscores, as properties are looked up. -/
def looseName (name : List Char) : List Char :=
  (name.filter fun c => c ≠ '_' && c ≠ '-' && c ≠ ' ').map Char.toLower

/-- Longer names of categories. -/
def categoryAliases : List (String × String) := [
  ("other", "C"), ("control", "Cc"), ("cntrl", "Cc"), ("format", "Cf"), ("unassigned", "Cn"),
  ("privateuse", "Co"), ("surrogate", "Cs"), ("letter", "L"), ("casedletter", "Lc"),
  ("lowercaseletter", "Ll"), ("modifierletter", "Lm"), ("otherletter", "Lo"),
  ("titlecaseletter", "Lt"), ("uppercaseletter", "Lu"), ("mark", "M"), ("combiningmark", "M"),
  ("spacingmark", "Mc"), ("enclosingmark", "Me"), ("nonspacingmark", "Mn"), ("number", "N"),
  ("decimalnumber", "Nd"), ("digit", "Nd"), ("letternumber", "Nl"), ("othernumber", "No"),
  ("punctuation", "P"), ("punct", "P"), ("connectorpunctuation", "Pc"), ("dashpunctuation", "Pd"),
  ("closepunctuation", "Pe"), ("finalpunctuation", "Pf"), ("initialpunctuation", "Pi"),
  ("otherpunctuation", "Po"), ("openpunctuation", "Ps"), ("symbol", "S"), ("currencysymbol", "Sc"),
  ("modifiersymbol", "Sk"), ("mathsymbol", "Sm"), ("othersymbol", "So"), ("separator", "Z"),
  ("lineseparator", "Zl"), ("paragraphseparator", "Zp"), ("spaceseparator", "Zs")]

/-- The category of a loose name: one of the tables, a union of tables, or the complement of all
assigned characters. Case leaves the letters that have case alone, as one category. -/
def category? (name : List Char) : Option CharGroup :=
  match name with
  | [] => none
  | 'c' :: 'n' :: [] => some { ranges := assigned, negated := true }
  | 'l' :: 'c' :: [] =>
    some { ranges := (categoryLu.union categoryLl).union categoryLt, caseless := true }
  | 'c' :: [] =>
    let others := ['L', 'M', 'N', 'P', 'S', 'Z'].foldr (fun g r => (categoryGroup g).union r) .empty
    some { ranges := others, negated := true }
  | g :: [] =>
    if "lmnpsz".toList.contains g then some { ranges := categoryGroup g.toUpper } else none
  | _ =>
    (categories.find? fun e => looseName e.1.toList == name).map fun e => { ranges := e.2 }

/-- The characters of a script. -/
def script? (name : List Char) : Option CharGroup :=
  (scriptTexts.find? fun e => looseName e.1.toList == name).map fun e => { ranges := .ofText e.2 }

/-- The characters with a property: a category, a script, or one of three general names. -/
def property? (name : List Char) : Option CharGroup :=
  let n := looseName name
  match String.ofList n with
  | "any" => some { ranges := anyRanges }
  | "assigned" => some { ranges := assigned }
  | "ascii" => some { ranges := .span 0 0x7F }
  | s =>
    category? n <|> script? n <|>
      (categoryAliases.lookup s).bind fun c => category? (looseName c.toList)

end JavaReview.Pattern
