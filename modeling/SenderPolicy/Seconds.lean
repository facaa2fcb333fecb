import SenderPolicy.Numeral.Arithmetic
import SenderPolicy.Numeral.Fixed

/-!
# Seconds

The times that a clock tells and the durations between them are numbers of seconds. Everything
that depends on time is written for any type of such numbers. Two types are of use: fractions, in
which sums are exact, and floating-point values, in which every sum is rounded, as on a machine.
-/

namespace SenderPolicy

/-- Numbers of seconds. -/
class Seconds (τ : Type) extends Add τ, Sub τ, Zero τ, LE τ, LT τ where
  /-- Whether a number is at most another one can be decided. -/
  decideLe (x y : τ) : Decidable (x ≤ y)
  /-- Whether a number is less than another one can be decided. -/
  decideLt (x y : τ) : Decidable (x < y)
  /-- The number of an integer, or the number nearest to it. -/
  ofInt : Int → τ
  /-- A number without its fraction. -/
  whole : τ → Int
  /-- A number with a fixed number of decimal places. -/
  fixed : Nat → τ → String

attribute [reducible, instance] Seconds.decideLe Seconds.decideLt

/-- A fraction without its fractional part. -/
def truncate (x : Rat) : Int := x.num.tdiv x.den

instance : Seconds Rat where
  zero := 0
  decideLe _ _ := inferInstance
  decideLt _ _ := inferInstance
  ofInt n := n
  whole := truncate
  fixed := renderFixed

instance : Seconds Binary64 where
  decideLe _ _ := inferInstance
  decideLt _ _ := inferInstance
  ofInt := Binary64.ofInt
  whole x := truncate (x.toRat?.getD 0)
  fixed := Binary64.renderFixed

section Remaining

variable {τ : Type} [Seconds τ]

/-- The seconds that remain at the time `now` until a deadline; none once it has passed. -/
def remaining (deadline now : τ) : τ :=
  if 0 < deadline - now then deadline - now else 0

end Remaining

/-- Exact time remains as long as the deadline lies ahead. -/
theorem remaining_pos_iff {deadline now : Rat} : 0 < remaining deadline now ↔ now < deadline := by
  rw [Rat.lt_iff_sub_pos now deadline]
  unfold remaining
  split
  · rfl
  · rename_i h
    exact ⟨fun h0 => absurd h0 Rat.lt_irrefl, fun h1 => absurd h1 h⟩

/-- The exact time that remains is what is left until the deadline. -/
theorem remaining_of_lt {deadline now : Rat} (h : now < deadline) :
    remaining deadline now = deadline - now := if_pos ((Rat.lt_iff_sub_pos now deadline).1 h)

end SenderPolicy
