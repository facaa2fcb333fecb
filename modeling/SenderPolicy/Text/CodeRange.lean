/-!
# Blocks of code points

A character class is given as a list of blocks of code points in increasing order. `covers`
decides membership and stops at the first block that starts beyond the point asked for.
-/

namespace SenderPolicy

/-- A block of consecutive code points, both ends included. -/
structure CodeRange where
  /-- The least code point of the block. -/
  first : Nat
  /-- The greatest code point of the block. -/
  last : Nat

/-- Whether a code point lies in one of the blocks, which are listed in increasing order. -/
def CodeRange.covers : List CodeRange → Nat → Bool
  | [], _ => false
  | r :: rs, n => if n < r.first then false else n ≤ r.last || covers rs n

end SenderPolicy
