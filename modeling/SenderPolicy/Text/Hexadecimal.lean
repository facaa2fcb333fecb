import SenderPolicy.Text.Basic

/-!
# Hexadecimal digits

Digits are written in small letters and read in letters of either case.
-/

namespace SenderPolicy

/-- The hexadecimal digit of a number below sixteen. -/
def hexDigit (n : Nat) : CodePoint := ("0123456789abcdef" : Text).getD n '?'

/-- The last `width` hexadecimal digits of a number. -/
def hexDigits : (width : Nat) → Nat → Text
  | 0, _ => []
  | width + 1, n => hexDigits width (n / 16) ++ [hexDigit (n % 16)]

/-- The value of a hexadecimal digit. -/
def hexValue? (c : CodePoint) : Option Nat :=
  if c.isDigit then some (c.toNat - 0x30)
  else if c.isBetween 'a' 'f' then some (c.toNat - 0x61 + 10)
  else if c.isBetween 'A' 'F' then some (c.toNat - 0x41 + 10)
  else none

/-- The number that hexadecimal digits stand for; other characters are passed over. -/
def hexNumber (s : Text) : Nat := (s.filterMap hexValue?).foldl (fun n d => 16 * n + d) 0

end SenderPolicy
