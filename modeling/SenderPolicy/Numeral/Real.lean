import SenderPolicy.Numeral.Basic
import SenderPolicy.Numeral.Binary64

/-!
# Numerals of real numbers

A numeral of a real number has a sign, digits with a point among them, and an exponent; each may
be missing, but not all digits. The words `inf`, `infinity` and `nan` stand for the values
that are not finite. Single underscores may stand between digits and blanks around the numeral.
-/

namespace SenderPolicy

/-- The exponent written after the digits of a numeral: nothing, or a mark, a sign and digits. -/
def readExponent? : Text → Option Int
  | [] => some 0
  | c :: rest =>
    let (negative, ds) := cutSign rest
    if c.toLower = 'e' && !ds.isEmpty && ds.all CodePoint.isDigit then
      some (if negative then -(decimalValue ds : Int) else decimalValue ds)
    else none

/-- The fraction written after the whole digits of a numeral, and the rest. -/
def cutFraction : Text → Text × Text
  | '.' :: rest => (rest.takeWhile CodePoint.isDigit, rest.dropWhile CodePoint.isDigit)
  | rest => ([], rest)

/-- Reads an unsigned numeral without blanks and underscores. -/
def readMagnitude? (negative : Bool) (s : Text) : Option Binary64 :=
  let word := (Text.toLowerAscii s)
  if word = "inf" || word = "infinity" then some (.infinite negative)
  else if word = "nan" then some .nan
  else
    let whole := s.takeWhile CodePoint.isDigit
    let (fraction, rest) := cutFraction (s.dropWhile CodePoint.isDigit)
    if whole.isEmpty && fraction.isEmpty then none
    else (readExponent? rest).map fun e =>
      Binary64.ofDecimal negative (decimalValue (whole ++ fraction)) (e - fraction.length)

/-- Reads the numeral of a real number. -/
def readReal (s : Text) : Except NumeralError Binary64 :=
  let value := (ungroup? false (plainNumeral s)).bind fun plain =>
    readMagnitude? (cutSign plain).1 (cutSign plain).2
  match value with
  | some v => .ok v
  | none => .error (.notReal s)

end SenderPolicy
