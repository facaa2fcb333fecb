import SenderPolicy.Text.Basic

/-!
# Decimal digits of every script

A decimal digit is a character of the general category Nd. Each script has its ten digits in a
row from zero to nine, so the class is given by the code points of the zeros.
-/

namespace SenderPolicy

/-- The code points of the digits zero, in increasing order. -/
def zeroPoints : List Nat := [
  0x30, 0x660, 0x6F0, 0x7C0, 0x966, 0x9E6, 0xA66, 0xAE6, 0xB66, 0xBE6, 0xC66, 0xCE6, 0xD66, 0xDE6,
  0xE50, 0xED0, 0xF20, 0x1040, 0x1090, 0x17E0, 0x1810, 0x1946, 0x19D0, 0x1A80, 0x1A90, 0x1B50,
  0x1BB0, 0x1C40, 0x1C50, 0xA620, 0xA8D0, 0xA900, 0xA9D0, 0xA9F0, 0xAA50, 0xABF0, 0xFF10, 0x104A0,
  0x10D30, 0x11066, 0x110F0, 0x11136, 0x111D0, 0x112F0, 0x11450, 0x114D0, 0x11650, 0x116C0,
  0x11730, 0x118E0, 0x11950, 0x11C50, 0x11D50, 0x11DA0, 0x16A60, 0x16AC0, 0x16B50, 0x1D7CE,
  0x1D7D8, 0x1D7E2, 0x1D7EC, 0x1D7F6, 0x1E140, 0x1E2F0, 0x1E950, 0x1FBF0]

/-- The value of a decimal digit of any script. -/
def digit? (c : CodePoint) : Option Nat :=
  (zeroPoints.find? fun z => z ≤ c.toNat && c.toNat < z + 10).map (c.toNat - ·)

/-- Whether a character is a decimal digit of some script. -/
def isDecimalDigit (c : CodePoint) : Bool := (digit? c).isSome

/-- The number a sequence of digit values stands for. -/
def ofDigitValues (ds : List Nat) : Nat := ds.foldl (fun n d => 10 * n + d) 0

/-- The number that the decimal digits of a text stand for; other characters are passed over. -/
def decimalValue (s : Text) : Nat := ofDigitValues (s.filterMap digit?)

/-- The digits of ASCII are decimal digits. -/
theorem isDecimalDigit_of_isDigit {c : Char} (h : c.isDigit) : isDecimalDigit c := by
  have h' : 0x30 ≤ c.toNat ∧ c.toNat < 0x30 + 10 := by
    simp only [Char.isDigit, Bool.and_eq_true, decide_eq_true_eq] at h
    have h1 : 48 ≤ c.val.toNat := UInt32.le_iff_toNat_le.1 h.1
    have h2 : c.val.toNat ≤ 57 := UInt32.le_iff_toNat_le.1 h.2
    simp only [Char.toNat]
    omega
  simp [isDecimalDigit, digit?, zeroPoints, CodePoint.toNat, h'.1, h'.2]

end SenderPolicy
