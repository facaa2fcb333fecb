import SenderPolicy.Text.Hexadecimal
import SenderPolicy.Text.Printable

/-!
# Quoted text

The form in which a diagnostic shows a text that it rejects. The text stands between single
quotes, or between double quotes if it holds a single quote and no double one. The quote in use,
the backslash and the unprintable characters are written as escapes.
-/

namespace SenderPolicy

/-- The numeric escape of a character, with two, four or eight hexadecimal digits. -/
def numericEscape (c : CodePoint) : Text :=
  if c.toNat ≤ 0xFF then '\\' :: 'x' :: hexDigits 2 c.toNat
  else if c.toNat ≤ 0xFFFF then '\\' :: 'u' :: hexDigits 4 c.toNat
  else '\\' :: 'U' :: hexDigits 8 c.toNat

/-- A character as it is written between the quotes `q`. -/
def quotedChar (q c : CodePoint) : Text :=
  if c = q || c = '\\' then ['\\', c]
  else if c = '\n' then ['\\', 'n']
  else if c = '\r' then ['\\', 'r']
  else if c = '\t' then ['\\', 't']
  else if isPrintable c then [c]
  else numericEscape c

/-- The quote that stands around a text. -/
def quoteFor (s : Text) : CodePoint :=
  if s.contains '\'' && !s.contains '"' then '"' else '\''

/-- A text between quotes. -/
def Text.quoted (s : Text) : Text :=
  quoteFor s :: s.flatMap (quotedChar (quoteFor s)) ++ [quoteFor s]

end SenderPolicy
