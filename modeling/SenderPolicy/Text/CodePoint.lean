/-!
# Code points

A text is a sequence of code points. Most are characters. The numbers from U+D800 to U+DFFF are
halves of surrogate pairs: two of them stand for one character where text is written in units of
sixteen bits, and one on its own is no character. A code point is given by its number
(`toNat_inj`), and every number up to U+10FFFF is that of one (`toNat_ofNat`).
-/

namespace SenderPolicy

/-- A code point. -/
inductive CodePoint
  /-- A character. -/
  | char (c : Char)
  /-- Half of a surrogate pair, by its distance from U+D800. -/
  | half (n : Fin 0x800)
  deriving DecidableEq, Repr

instance : Coe Char CodePoint := ⟨.char⟩

instance : Inhabited CodePoint := ⟨'\x00'⟩

namespace CodePoint

/-- The number of a code point. -/
def toNat : CodePoint → Nat
  | char c => c.toNat
  | half n => 0xD800 + n

/-- The code point of a number. -/
def ofNat (n : Nat) : CodePoint :=
  if h : 0xD800 ≤ n ∧ n < 0xE000 then half ⟨n - 0xD800, by omega⟩ else char (Char.ofNat n)

/-- Whether a code point is a character of a class. -/
def isChar (p : Char → Bool) : CodePoint → Bool
  | char c => p c
  | half _ => false

/-- Whether a code point is a digit of ASCII. -/
def isDigit (c : CodePoint) : Bool := c.isChar Char.isDigit

/-- Whether a code point is a letter of ASCII. -/
def isAlpha (c : CodePoint) : Bool := c.isChar Char.isAlpha

/-- Whether a code point is a letter or a digit of ASCII. -/
def isAlphanum (c : CodePoint) : Bool := c.isChar Char.isAlphanum

/-- Whether the number of a code point lies between those of two others. -/
def isBetween (c first last : CodePoint) : Bool := first.toNat ≤ c.toNat && c.toNat ≤ last.toNat

/-- The small letter for a capital one of ASCII; every other code point is kept. -/
def toLower : CodePoint → CodePoint
  | char c => c.toLower
  | half n => half n

/-- The capital letter for a small one of ASCII; every other code point is kept. -/
def toUpper : CodePoint → CodePoint
  | char c => c.toUpper
  | half n => half n

/-- The character of a code point, which is U+FFFD for half of a surrogate pair. -/
def toChar : CodePoint → Char
  | char c => c
  | half _ => '\ufffd'

/-- The number of a code point is at most U+10FFFF. -/
theorem toNat_lt (c : CodePoint) : c.toNat < 0x110000 := by
  cases c with
  | char c =>
    have hv : c.toNat < 0xD800 ∨ 0xDFFF < c.toNat ∧ c.toNat < 0x110000 := c.valid
    show c.toNat < 0x110000
    omega
  | half n =>
    show 0xD800 + n.val < 0x110000
    omega

/-- The number of the code point of a number is that number. -/
theorem toNat_ofNat {n : Nat} (h : n < 0x110000) : (ofNat n).toNat = n := by
  unfold ofNat
  split
  · rename_i hs
    simp only [toNat]
    omega
  · rename_i hs
    have hv : n.isValidChar := by unfold Nat.isValidChar; omega
    have hc : Char.ofNat n = Char.ofNatAux n hv := dif_pos hv
    rw [toNat, hc]
    rfl

/-- A code point is the one of its number. -/
theorem ofNat_toNat (c : CodePoint) : ofNat c.toNat = c := by
  cases c with
  | char c =>
    have hv : c.toNat.isValidChar := c.valid
    have hs : ¬(0xD800 ≤ c.toNat ∧ c.toNat < 0xE000) := by unfold Nat.isValidChar at hv; omega
    simp only [ofNat, toNat, dif_neg hs, Char.ofNat_toNat]
  | half n =>
    have hs : 0xD800 ≤ 0xD800 + n.val ∧ 0xD800 + n.val < 0xE000 := by omega
    simp only [ofNat, toNat, dif_pos hs, Nat.add_sub_cancel_left]

/-- Code points of one number are the same. -/
theorem toNat_inj {a b : CodePoint} : a.toNat = b.toNat ↔ a = b :=
  ⟨fun h => by rw [← ofNat_toNat a, h, ofNat_toNat], fun h => h ▸ rfl⟩

end CodePoint

end SenderPolicy
