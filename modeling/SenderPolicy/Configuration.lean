import SenderPolicy.Json.Basic
import SenderPolicy.Numeral.Integer
import SenderPolicy.Numeral.Real
import SenderPolicy.Numeral.Shortest
import SenderPolicy.LookupLimit
import SenderPolicy.Seconds
import SenderPolicy.SettingFault

/-!
# Values of a configuration

A configuration is an object of named values. This module reads numbers and truth values from the
values of any type, and writes a value as text.
-/

namespace SenderPolicy.Json

/-- The integer part of a floating-point value. -/
def integerPart : Binary64 → Except NumeralError Int
  | .nan => .error .nanToInteger
  | .infinite _ => .error .infiniteToInteger
  | x => .ok (Seconds.whole x)

/-- The name of a value's type. -/
def typeName : Json → String
  | .null => "NoneType"
  | .bool _ => "bool"
  | .integer _ => "int"
  | .real _ => "float"
  | .string _ => "str"
  | .array _ => "list"
  | .object _ => "dict"

/-- The number of a truth value. -/
def truthNumber (b : Bool) : Int := if b then 1 else 0

/-- The integer that a value of a configuration stands for. A fraction is cut off, and a numeral
in a string is read. -/
def toInteger : Json → Except NumeralError Int
  | .integer n => .ok n
  | .real x => integerPart x
  | .bool b => .ok (truthNumber b)
  | .string s => readInteger s
  | v => .error (.notNumeric v.typeName)

/-- The number of seconds that a value stands for. -/
def toSeconds : Json → Except SettingFault Binary64
  | .integer n =>
    if (Binary64.ofInt n).isFinite then .ok (.ofInt n) else .error .tooManySeconds
  | .real x => .ok x
  | .bool b => .ok (.ofInt (truthNumber b))
  | v => .error (.notSeconds v.typeName)

/-- The number of seconds that a value stands for, or none. -/
def seconds (v : Json) : Binary64 := v.toSeconds.toOption.getD 0

/-- Whether a value counts as true: numbers other than zero, and what is not empty. -/
def isTruthy : Json → Bool
  | .null => false
  | .bool b => b
  | .integer n => n ≠ 0
  | .real (.finite _ s _) => s ≠ 0
  | .real _ => true
  | .string s => !s.isEmpty
  | .array vs => !vs.isEmpty
  | .object fs => !fs.isEmpty

mutual

/-- A value inside another one, as text. -/
def display : Json → Text
  | .null => "None"
  | .bool b => if b then "True" else "False"
  | .integer n => toString n
  | .real x => x.render
  | .string s => s.quoted
  | .array vs => "[" ++ displayItems vs ++ "]"
  | .object fs => "\x7b" ++ displayFields fs ++ "\x7d"

/-- The items of a list, as text. -/
def displayItems : List Json → Text
  | [] => []
  | [v] => display v
  | v :: vs => display v ++ ", " ++ displayItems vs

/-- The fields of an object, as text. -/
def displayFields : List (Text × Json) → Text
  | [] => []
  | [(name, v)] => name.quoted ++ ": " ++ display v
  | (name, v) :: fs => name.quoted ++ ": " ++ display v ++ ", " ++ displayFields fs

end

/-- A value as text, in which a string stands without quotes. -/
def plainText : Json → Text
  | .string s => s
  | v => display v

/-- The limit on lookups that a value stands for. -/
def toLookupLimit : Json → Except SettingFault LookupLimit
  | .integer n => .ok n
  | .bool b => .ok (.truth b)
  | .real x => .ok (.real x)
  | v => .error (.notCount v.typeName)

end SenderPolicy.Json
