/-!
# Settings of no use

A setting of the wrong type is not refused when the service starts. It ends an evaluation at the
place where its value is needed.
-/

namespace SenderPolicy

/-- What is wrong with a setting. -/
inductive SettingFault
  /-- A number of seconds is asked for, and the setting is of another type. -/
  | notSeconds (type : String)
  /-- The number of seconds is beyond the range of floating-point values. -/
  | tooManySeconds
  /-- A number of lookups is asked for, and the setting is of another type. -/
  | notCount (type : String)
  deriving DecidableEq, Repr

/-- The wording of a fault. -/
def SettingFault.message : SettingFault → String
  | .notSeconds type => "unsupported operand type(s) for +: 'float' and '" ++ type ++ "'"
  | .tooManySeconds => "int too large to convert to float"
  | .notCount type => "'>' not supported between instances of 'int' and '" ++ type ++ "'"

end SenderPolicy
