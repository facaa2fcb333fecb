import SenderPolicy.Text.DecimalDigit
import SenderPolicy.Text.Quoted

/-!
# Numerals in configuration values

What the readers of integers and of real numbers share: the padding they drop, the underscores
they allow between digits, and the ways in which they fail.
-/

namespace SenderPolicy

/-- The greatest number of digits that an integer numeral may have. -/
def maxDigits : Nat := 4300

/-- Why a value is not read as a number. -/
inductive NumeralError
  /-- The text is no integer numeral. -/
  | notInteger (source : Text)
  /-- The text is no numeral of a real number. -/
  | notReal (source : Text)
  /-- The integer has more digits than allowed. -/
  | tooManyDigits (count : Nat)
  /-- The value is of a type that no number is made from. -/
  | notNumeric (type : String)
  /-- An infinite value has no integer part. -/
  | infiniteToInteger
  /-- A value that is not a number has no integer part. -/
  | nanToInteger
  deriving DecidableEq

/-- The greatest number of characters of a rejected integer numeral that its message shows. -/
def shownNumeral : Nat := 200

/-- The wording of a number with too many digits. -/
def tooManyDigitsMessage (count : Nat) : String :=
  "Exceeds the limit (" ++ toString maxDigits ++
    " digits) for integer string conversion: value has " ++ toString count ++
    " digits; use sys.set_int_max_str_digits() to increase the limit"

/-- The wording of the error. -/
def NumeralError.message : NumeralError → Text
  | .notInteger s =>
    "invalid literal for int() with base 10: " ++ (s.quoted.take shownNumeral)
  | .notReal s => "could not convert string to float: " ++ s.quoted
  | .tooManyDigits n => tooManyDigitsMessage n
  | .notNumeric type =>
    "int() argument must be a string, a bytes-like object or a real number, not '" ++ type ++ "'"
  | .infiniteToInteger => "cannot convert float infinity to integer"
  | .nanToInteger => "cannot convert float NaN to integer"

/-- The blanks that may stand around a numeral. -/
def isPadding (c : CodePoint) : Bool := isBlank c && !isSeparatorControl c

/-- A numeral without the blanks around it and with the digits of ASCII for those of every
script. -/
def plainNumeral (s : Text) : Text :=
  (Text.trimWhile isPadding s).map fun c =>
    match digit? c with
    | some d => CodePoint.ofNat (0x30 + d)
    | none => c

/-- The sign in front of a numeral, true for a minus, and the rest. -/
def cutSign : Text → Bool × Text
  | '-' :: rest => (true, rest)
  | '+' :: rest => (false, rest)
  | rest => (false, rest)

/-- Drops the underscores of a text if each stands between two digits of ASCII; `prior` tells
whether a digit stands before the text. -/
def ungroup? : (prior : Bool) → Text → Option Text
  | _, [] => some []
  | prior, '_' :: c :: rest =>
    if prior && c.isDigit then (ungroup? true rest).map (c :: ·) else none
  | _, c :: rest => if c = '_' then none else (ungroup? c.isDigit rest).map (c :: ·)

end SenderPolicy
