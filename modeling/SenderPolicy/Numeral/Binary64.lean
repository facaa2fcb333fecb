/-!
# Binary floating point of 64 bits

The finite values are `±significand · 2^exponent` with a significand below `2^53` and an exponent
from -1074 to 971. Numbers are rounded to the nearest value, and of two nearest ones to that with
the even significand. All arithmetic is exact, on natural numbers and fractions. `divNearest` is the
one place where a number is rounded: its result is within half a unit (`divNearest_bounds`), and a
half goes to the even neighbour (`divNearest_even`).
-/

namespace SenderPolicy

/-- A floating-point value of 64 bits. -/
inductive Binary64
  /-- The value `±significand · 2^exponent`. -/
  | finite (negative : Bool) (significand : Nat) (exponent : Int)
  /-- One of the two infinities. -/
  | infinite (negative : Bool)
  /-- The value that is no number. -/
  | nan
  deriving DecidableEq, Repr

/-- The quotient of two numbers rounded to the nearest number, a half to the even one. -/
def divNearest (num den : Nat) : Nat :=
  let q := num / den
  let r := num % den
  if 2 * r < den then q else if den < 2 * r then q + 1 else q + q % 2

/-- A rounded quotient is within half a unit of the quotient. -/
theorem divNearest_bounds (num : Nat) {den : Nat} (h : 0 < den) :
    2 * (den * divNearest num den) ≤ 2 * num + den ∧
      2 * num ≤ 2 * (den * divNearest num den) + den := by
  have hdiv := Nat.div_add_mod num den
  have hmod := Nat.mod_lt num h
  have hone : num / den % 2 ≤ 1 := by omega
  have hsucc : den * (num / den + 1) = den * (num / den) + den := Nat.mul_succ _ _
  unfold divNearest
  simp only
  split
  · omega
  · split
    · rw [hsucc]; omega
    · rcases Nat.mod_two_eq_zero_or_one (num / den) with h2 | h2 <;> rw [h2]
      · simp only [Nat.add_zero]; omega
      · rw [hsucc]; omega

/-- A quotient in the middle between two numbers is rounded to an even one. -/
theorem divNearest_even {num den : Nat} (h : 2 * (num % den) = den) :
    divNearest num den % 2 = 0 := by
  unfold divNearest
  simp only
  split
  · omega
  · split
    · omega
    · omega

/-- The power of a base with an exponent of either sign. -/
def powInt (base : Nat) (e : Int) : Rat :=
  if 0 ≤ e then (Nat.pow base e.toNat : Rat) else 1 / (Nat.pow base (-e).toNat : Rat)

namespace Binary64

/-- The least exponent. -/
def minExponent : Int := -1074

/-- The greatest exponent. -/
def maxExponent : Int := 971

/-- The least significand of 53 binary digits. -/
def leastFull : Nat := Nat.pow 2 52

/-- The value zero with a sign. -/
def zero (negative : Bool) : Binary64 := .finite negative 0 minExponent

/-- The quotient `num / den` in units of `2^e`, rounded to the nearest number. -/
def scaled (num den : Nat) (e : Int) : Nat :=
  if 0 ≤ e then divNearest num (den * Nat.pow 2 e.toNat)
  else divNearest (num * Nat.pow 2 (-e).toNat) den

/-- The exponent at which the quotient of two positive numbers has 53 binary digits before the
point, or the least exponent. -/
def exponentFor (num den : Nat) : Int :=
  let k : Int := num.log2 - den.log2
  let low : Bool :=
    if 0 ≤ k then num < den * Nat.pow 2 k.toNat else num * Nat.pow 2 (-k).toNat < den
  max (if low then k - 53 else k - 52) minExponent

/-- The value nearest to `±num / den`, for a positive `den`. -/
def ofRatio (negative : Bool) (num den : Nat) : Binary64 :=
  if num = 0 then zero negative
  else
    let e := exponentFor num den
    let s := scaled num den e
    let (s, e) := if s = 2 * leastFull then (leastFull, e + 1) else (s, e)
    if maxExponent < e then .infinite negative else .finite negative s e

/-- The value nearest to `±digits · 10^exponent`. Numbers whose exponent lies far outside the
range are answered without computing them. -/
def ofDecimal (negative : Bool) (digits : Nat) (exponent : Int) : Binary64 :=
  let size : Int := (Nat.toDigits 10 digits).length + exponent
  if digits = 0 || size < -400 then zero negative
  else if 400 < size then .infinite negative
  else if 0 ≤ exponent then ofRatio negative (digits * Nat.pow 10 exponent.toNat) 1
  else ofRatio negative digits (Nat.pow 10 (-exponent).toNat)

/-- The number `±s · 2^e`. -/
def signedValue (negative : Bool) (s : Nat) (e : Int) : Rat :=
  (if negative then -1 else 1) * (s : Rat) * powInt 2 e

/-- The number that a finite value stands for. -/
def toRat? : Binary64 → Option Rat
  | .finite negative s e => some (signedValue negative s e)
  | _ => none

end Binary64

end SenderPolicy
