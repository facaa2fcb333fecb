import SenderPolicy.Numeral.Basic

/-!
# Integer numerals

An integer numeral is a sign, which may be missing, and decimal digits of any script, between
which single underscores may stand. Blanks around it are dropped. `readInteger` reads it and
refuses a numeral of more than `maxDigits` digits.
-/

namespace SenderPolicy

/-- Reads the digits of an integer numeral: those in front are counted before what follows them
is looked at. -/
def readDigits (source digits : Text) : Except NumeralError Nat :=
  let run := digits.takeWhile fun c : CodePoint => c.isDigit || c = '_'
  match ungroup? false run with
  | none => .error (.notInteger source)
  | some [] => .error (.notInteger source)
  | some ds =>
    if maxDigits < ds.length then .error (.tooManyDigits ds.length)
    else if run.length < digits.length then .error (.notInteger source)
    else .ok (decimalValue ds)

/-- Reads an integer numeral. -/
def readInteger (s : Text) : Except NumeralError Int :=
  let (negative, digits) := cutSign (plainNumeral s)
  (readDigits s digits).map fun n => if negative then -(n : Int) else n

end SenderPolicy
