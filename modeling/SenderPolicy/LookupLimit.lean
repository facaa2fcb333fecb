import SenderPolicy.Numeral.Arithmetic
import SenderPolicy.Numeral.Shortest

/-!
# Limits on the number of lookups

A limit is a number, mostly an integer. A truth value or a floating-point value may be configured
as well. A number of lookups is compared with a limit exactly; the number one below a
floating-point limit is rounded, as every difference of such values is.
-/

namespace SenderPolicy

/-- A limit on the number of lookups. -/
inductive LookupLimit
  /-- An integer. -/
  | integer (n : Int)
  /-- A truth value, which counts as one or as zero. -/
  | truth (b : Bool)
  /-- A floating-point value. -/
  | real (x : Binary64)
  deriving DecidableEq, Repr

instance : Coe Int LookupLimit := ⟨.integer⟩

namespace LookupLimit

/-- The number that stands for a limit beyond every number of lookups. -/
def unlimited : Int := Nat.pow 2 62

/-- The greatest number of lookups of a walk that is within the limit. -/
def most : LookupLimit → Int
  | .integer n => n
  | .truth b => b.toInt
  | .real (.finite negative s e) => (Binary64.signedValue negative s e).floor
  | .real (.infinite true) => -1
  | .real _ => unlimited

/-- Whether a number of lookups is greater than the limit. -/
def isExceededBy : LookupLimit → Int → Bool
  | .integer m, n => m < n
  | .truth b, n => b.toInt < n
  | .real x, n => x.isLessThanInt n

/-- Whether a number of lookups is within the limit and at most one below it. -/
def isNear : LookupLimit → Int → Bool
  | .integer m, n => m - 1 ≤ n && n ≤ m
  | .truth b, n => b.toInt - 1 ≤ n && n ≤ b.toInt
  | .real x, n => (x - Binary64.ofInt 1).isAtMostInt n && x.isAtLeastInt n

/-- The limit as it is shown. -/
def text : LookupLimit → String
  | .integer n => toString n
  | .truth b => if b then "True" else "False"
  | .real x => x.render

/-- A number of lookups exceeds a limit if and only if it is greater than the greatest number within
the limit. -/
theorem isExceededBy_eq (l : LookupLimit) {n : Int} (h : 0 ≤ n) (hn : n ≤ unlimited) :
    l.isExceededBy n = decide (l.most < n) := by
  cases l with
  | integer | truth => rfl
  | real x =>
    cases x with
    | finite => exact decide_eq_decide.2 Rat.floor_lt_iff.symm
    | infinite negative =>
      cases negative
      · exact (decide_eq_false (Int.not_lt.2 hn)).symm
      · exact (decide_eq_true (show -1 < n by omega)).symm
    | nan => exact (decide_eq_false (Int.not_lt.2 hn)).symm

/-- No number of lookups is near a limit that it exceeds. -/
theorem isNear_eq_false {l : LookupLimit} {n : Int} (h : l.isExceededBy n = true) :
    l.isNear n = false := by
  cases l with
  | integer m =>
    simp only [isExceededBy, decide_eq_true_eq] at h
    simp only [isNear, Bool.and_eq_false_iff, decide_eq_false_iff_not]
    omega
  | truth b =>
    simp only [isExceededBy, decide_eq_true_eq] at h
    simp only [isNear, Bool.and_eq_false_iff, decide_eq_false_iff_not]
    omega
  | real x =>
    simp only [isExceededBy] at h
    simp only [isNear, Binary64.isAtLeastInt_eq_false h, Bool.and_false]

end LookupLimit

end SenderPolicy
