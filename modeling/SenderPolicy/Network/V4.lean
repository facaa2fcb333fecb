import SenderPolicy.Numeral.Basic

/-!
# IPv4 networks

An address is four decimal octets without leading zeros. A network is an address, alone or with a
suffix after one slash: a number of leading bits, or a mask in the form of an address whose one
bits are the leading or the trailing ones.
-/

namespace SenderPolicy.Network

/-- A text that holds digits of ASCII and nothing else. -/
def isDigits (s : Text) : Bool := !s.isEmpty && s.all CodePoint.isDigit

/-- A number of leading bits of an address of `width` bits, in at most `maxDigits` digits. -/
def isBitCount (width : Nat) (s : Text) : Bool :=
  isDigits s && s.length ≤ maxDigits && decimalValue s ≤ width

namespace V4

/-- The number of bits of an address. -/
def width : Nat := 32

/-- The value of an octet: one to three digits, no leading zero, at most 255. -/
def octet? (s : Text) : Option Nat :=
  if isDigits s && s.length ≤ 3 && (s = "0" || s.head? ≠ some '0') && decimalValue s ≤ 255 then
    some (decimalValue s)
  else none

/-- The number of an address, its first octet highest. -/
def address? (s : Text) : Option Nat :=
  match (Text.parts '.' s).map octet? with
  | [some a, some b, some c, some d] => some (((a * 256 + b) * 256 + c) * 256 + d)
  | _ => none

/-- A mask: its one bits are a number of leading bits, or all others. -/
def isMask (m : Nat) : Bool :=
  (List.range (width + 1)).any fun k =>
    m + Nat.pow 2 k = Nat.pow 2 width || m + 1 = Nat.pow 2 k

/-- The suffix of a network: a number of leading bits, or a mask. -/
def isSuffix (s : Text) : Bool :=
  isBitCount width s || (address? s).any isMask

/-- An address, alone or with a suffix. -/
def isNetwork (s : Text) : Bool :=
  match Text.parts '/' s with
  | [a] => (address? a).isSome
  | [a, suffix] => (address? a).isSome && isSuffix suffix
  | _ => false

end V4

end SenderPolicy.Network
