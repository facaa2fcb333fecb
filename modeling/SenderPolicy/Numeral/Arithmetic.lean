import SenderPolicy.Numeral.Binary64

/-!
# Sums and comparisons of floating-point values

A sum of two values is the value nearest to their exact sum. A sum of zero is positive, unless
both values are negative zeros. The order of the summands does not matter (`sum_comm`). Every
comparison with a value that is no number fails.
-/

namespace SenderPolicy.Binary64

/-- The value nearest to a fraction; zero is positive. -/
def ofRat (x : Rat) : Binary64 := ofRatio (x < 0) x.num.natAbs x.den

/-- The value nearest to an integer. -/
def ofInt (n : Int) : Binary64 := ofRatio (n < 0) n.natAbs 1

/-- The value of the opposite sign. -/
def opposite : Binary64 → Binary64
  | .finite negative s e => .finite (!negative) s e
  | .infinite negative => .infinite (!negative)
  | .nan => .nan

/-- The value nearest to a sum. Two infinities of different signs have none. -/
def sum : Binary64 → Binary64 → Binary64
  | .nan, _ | _, .nan => .nan
  | .infinite a, .infinite b => if a = b then .infinite a else .nan
  | .infinite a, .finite .. => .infinite a
  | .finite .., .infinite b => .infinite b
  | .finite a s e, .finite b t f =>
    let x := signedValue a s e + signedValue b t f
    if x = 0 then zero (a && b) else ofRat x

/-- Whether one value is less than another. -/
def isLess : Binary64 → Binary64 → Bool
  | .nan, _ | _, .nan => false
  | .infinite a, .infinite b => a && !b
  | .infinite a, .finite .. => a
  | .finite .., .infinite b => !b
  | .finite a s e, .finite b t f => signedValue a s e < signedValue b t f

/-- Whether a value is a number. -/
def isNumber : Binary64 → Bool
  | .nan => false
  | _ => true

/-- Whether one value is at most another. -/
def isAtMost (x y : Binary64) : Bool := x.isNumber && y.isNumber && !y.isLess x

/-- Whether a value is neither infinite nor no number. -/
def isFinite : Binary64 → Bool
  | .finite .. => true
  | _ => false

/-- Whether a value is less than an integer. -/
def isLessThanInt : Binary64 → Int → Bool
  | .nan, _ => false
  | .infinite negative, _ => negative
  | .finite negative s e, n => signedValue negative s e < n

/-- Whether a value is at most an integer. -/
def isAtMostInt : Binary64 → Int → Bool
  | .nan, _ => false
  | .infinite negative, _ => negative
  | .finite negative s e, n => signedValue negative s e ≤ n

/-- Whether a value is at least an integer. -/
def isAtLeastInt (x : Binary64) (n : Int) : Bool := x.isNumber && !x.isLessThanInt n

instance : Zero Binary64 := ⟨zero false⟩

instance : Add Binary64 := ⟨sum⟩

instance : Sub Binary64 := ⟨fun x y => sum x y.opposite⟩

instance : LT Binary64 := ⟨fun x y => x.isLess y⟩

instance : LE Binary64 := ⟨fun x y => x.isAtMost y⟩

instance (x y : Binary64) : Decidable (x < y) := inferInstanceAs (Decidable (x.isLess y = true))

instance (x y : Binary64) : Decidable (x ≤ y) := inferInstanceAs (Decidable (x.isAtMost y = true))

/-- The order of the summands does not matter. -/
theorem sum_comm (x y : Binary64) : sum x y = sum y x := by
  cases x <;> cases y <;> simp only [sum]
  · rw [Rat.add_comm, Bool.and_comm]
  · rename_i a b
    cases a <;> cases b <;> rfl

/-- A value that is less than an integer is not at least that integer. -/
theorem isAtLeastInt_eq_false {x : Binary64} {n : Int} (h : x.isLessThanInt n = true) :
    x.isAtLeastInt n = false := by
  simp [isAtLeastInt, h]

end SenderPolicy.Binary64
