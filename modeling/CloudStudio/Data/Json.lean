import Mathlib.Data.List.Basic

/-!
# JSON values

A parsed JSON value, with the conversions JavaScript applies to it.  A number is
kept as the text `String(n)` gives for it; a member that is missing is `none`,
JavaScript's `undefined`.
-/

namespace CloudStudio.Data

inductive Json where
  | null
  | bool (value : Bool)
  | num (text : String)
  | str (text : String)
  | arr (items : List Json)
  | obj (members : List (String × Json))

namespace Json

/-- The texts of the numbers that are not finite; `JSON.parse` reads `1e999` as
one. -/
def isInfinite (text : String) : Bool :=
  text = "Infinity" ∨ text = "-Infinity"

/-- `value[key]`, `none` for `undefined`. -/
def get? (key : String) : Json → Option Json
  | .obj members => (members.find? fun member => member.1 == key).map Prod.snd
  | _ => none

/-- `value[key] ?? undefined`. -/
def present? (key : String) (value : Json) : Option Json :=
  match value.get? key with
  | some .null => none
  | other => other

/-- `Boolean(value)`. -/
def truthy : Json → Bool
  | .null => false
  | .bool value => value
  | .num text => text != "0"
  | .str text => text != ""
  | .arr _ | .obj _ => true

mutual
/-- `String(value)`. -/
def toText : Json → String
  | .null => "null"
  | .bool true => "true"
  | .bool false => "false"
  | .num text => text
  | .str text => text
  | .arr items => String.intercalate "," (itemTexts items)
  | .obj _ => "[object Object]"

/-- The texts `Array.prototype.join` joins; `null` items are empty. -/
def itemTexts : List Json → List String
  | [] => []
  | .null :: rest => "" :: itemTexts rest
  | item :: rest => item.toText :: itemTexts rest
end

end Json

end CloudStudio.Data
