import SenderPolicy.Pattern.Basic
import SenderPolicy.Pattern.Mode
import SenderPolicy.Text.CharacterName

/-!
# Escapes

What a backslash and the signs after it stand for: a class of characters, a place, a reference to a
group, or a character that is given by its number, its name, or itself.
-/

namespace SenderPolicy.Pattern

/-- Whether a character is an octal digit. -/
def isOctal (c : CodePoint) : Bool := c.isBetween '0' '7'

/-- The number of octal digits. -/
def octalValue (s : Text) : Nat := s.foldl (fun n c => 8 * n + (c.toNat - 0x30)) 0

/-- The greatest number that three octal digits may stand for. -/
def maxOctal : Nat := 0xFF

/-- The character of a number of hexadecimal digits at the front of some signs. -/
def cutHex? (width : Nat) (signs : List Sign) : Option (CodePoint × List Sign) :=
  let (digits, _) := Sign.cutPlain (fun c => (hexValue? c).isSome) (signs.take width)
  let n := hexNumber digits
  if digits.length = width && n < 0x110000 then some (CodePoint.ofNat n, signs.drop width) else none

/-- The character of a name in braces at the front of some signs. -/
def cutNamed? : List Sign → Option (CodePoint × List Sign)
  | .plain '\x7b' :: rest => do
    let (name, rest) ← Sign.cutUntil? '\x7d' rest
    pure (← characterNamed? name, rest)
  | _ => none

/-- The character that an escape stands for inside and outside of sets: `e` is the character after
the backslash. -/
def cutChar? (e : CodePoint) (rest : List Sign) : Option (CodePoint × List Sign) :=
  if e = 'a' then some ('\x07', rest)
  else if e = 'f' then some ('\x0c', rest)
  else if e = 'n' then some ('\n', rest)
  else if e = 'r' then some ('\r', rest)
  else if e = 't' then some ('\t', rest)
  else if e = 'v' then some ('\x0b', rest)
  else if e = 'x' then cutHex? 2 rest
  else if e = 'u' then cutHex? 4 rest
  else if e = 'U' then cutHex? 8 rest
  else if e = 'N' then cutNamed? rest
  else if e.isAlphanum then none
  else some (e, rest)

/-- The class of characters that an escape stands for, and whether it stands for all others. -/
def classOf? (e : CodePoint) : Option (CharClass × Bool) :=
  ([('d', .digit, false), ('D', .digit, true), ('s', .blank, false), ('S', .blank, true),
    ('w', .word, false), ('W', .word, true)] : List (CodePoint × CharClass × Bool)).lookup e

/-- The place that an escape stands for. -/
def placeOf? (m : Mode) (e : CodePoint) : Option Anchor :=
  ([('A', .textStart), ('Z', .textEnd), ('b', .wordEnd m.asciiOnly false),
    ('B', .wordEnd m.asciiOnly true)] : List (CodePoint × Anchor)).lookup e

/-- The part that a character stands for. -/
def literal (m : Mode) (c : CodePoint) : Part := .one (.given m.rule c false)

/-- The part of an escape with digits, of which `d` is the first one: a character in octal digits
if the first one is zero or three of them follow each other, and else a reference in one or two
digits. `refer?` makes the reference to a group. -/
def digitEscape? (m : Mode) (refer? : Nat → Option Part) (d : CodePoint) (rest : List Sign) :
    Option (Part × List Sign) :=
  if d = '0' then
    let (more, _) := Sign.cutPlain isOctal (rest.take 2)
    some (literal m (.ofNat (octalValue more)), rest.drop more.length)
  else match Sign.cutPlain CodePoint.isDigit (rest.take 1) with
    | (e :: _, _) =>
      match Sign.cutPlain isOctal ((rest.drop 1).take 1), isOctal d && isOctal e with
      | (f :: _, _), true =>
        let n := octalValue [d, e, f]
        if n ≤ maxOctal then some (literal m (.ofNat n), rest.drop 2) else none
      | _, _ => (refer? (decimalValue [d, e])).map fun p => (p, rest.drop 1)
    | ([], _) => (refer? (decimalValue [d])).map fun p => (p, rest)

/-- The part of an escape: `e` is the character after the backslash. -/
def escape? (m : Mode) (refer? : Nat → Option Part) (e : CodePoint) (rest : List Sign) :
    Option (Part × List Sign) :=
  match classOf? e, placeOf? m e with
  | some (k, complement), _ =>
    some (.one (.inSet (.ofItems m.rule false [.named k m.asciiOnly complement])), rest)
  | _, some place => some (.anchor place, rest)
  | none, none =>
    if e.isDigit then digitEscape? m refer? e rest
    else (cutChar? e rest).map fun (c, rest) => (literal m c, rest)

end SenderPolicy.Pattern
