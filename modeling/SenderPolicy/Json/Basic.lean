import SenderPolicy.Numeral.Binary64
import SenderPolicy.Text.Basic

/-!
# JSON values

The values that requests carry and reports are written as. Integers and floating-point numbers
are kept apart, and an object keeps its fields in the order in which they stand.
-/

namespace SenderPolicy

/-- A JSON value. -/
inductive Json
  /-- The value `null`. -/
  | null
  /-- A truth value. -/
  | bool (value : Bool)
  /-- A number written without a fraction and an exponent. -/
  | integer (value : Int)
  /-- A number written with a fraction or an exponent. -/
  | real (value : Binary64)
  /-- A string. -/
  | string (value : Text)
  /-- A list of values. -/
  | array (items : List Json)
  /-- A list of named values. -/
  | object (fields : List (Text × Json))

namespace Json

instance : Inhabited Json := ⟨.null⟩

/-- The fields of an object; other values have none. -/
def fields : Json → List (Text × Json)
  | .object fs => fs
  | _ => []

/-- The characters of a string; other values have none. -/
def characters : Json → Text
  | .string s => s
  | _ => []

/-- The items of a list; other values have none. -/
def items : Json → List Json
  | .array vs => vs
  | _ => []

/-- The value of the last field of a name. -/
def field? (v : Json) (name : String) : Option Json :=
  (v.fields.reverse.find? fun f => f.1 = (name : Text)).map Prod.snd

/-- The value of the last field of a name, or `null`. -/
def field (v : Json) (name : String) : Json := (v.field? name).getD .null

end Json

end SenderPolicy
