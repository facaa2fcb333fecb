import SenderPolicy.Numeral.Binary64

/-!
# The shortest decimal form of a floating-point value

A value is written with the fewest decimal digits that read back as the same value, and of the
candidates with that many digits the nearest. `Binary64.shortest` finds the digits: it tries the
grids of multiples of `10^t`, coarse ones first, and on each grid looks at the two neighbours of
the value. `Binary64.render` lays the digits out: numbers from `10^-4` up to `10^16` are written
with a point and no exponent.
-/

namespace SenderPolicy

/-- The number `digits · 10^exponent`. -/
structure Decimal where
  /-- The significant digits as one number. -/
  digits : Nat
  /-- The power of ten that scales them. -/
  exponent : Int
  deriving DecidableEq

namespace Binary64

/-- The numbers that are rounded to one value. -/
structure Interval where
  /-- The lower end. -/
  low : Rat
  /-- The upper end. -/
  high : Rat
  /-- Whether the ends belong to it. -/
  closed : Bool

/-- Whether a number is in the interval. -/
def Interval.contains (i : Interval) (x : Rat) : Bool :=
  if i.closed then i.low ≤ x && x ≤ i.high else i.low < x && x < i.high

/-- The numbers that are rounded to `s · 2^e`. The neighbour below the least significand of an
exponent is nearer than the one above. -/
def intervalOf (s : Nat) (e : Int) : Interval :=
  let unit := powInt 2 (e - 2)
  let below : Nat := if s = leastFull && minExponent < e then 1 else 2
  ⟨((4 * s - below : Nat) : Rat) * unit, ((4 * s + 2 : Nat) : Rat) * unit, s % 2 = 0⟩

/-- The number of the grid of multiples of `10^t` that lies in the interval around `x` and is
nearest to `x`, the even one of two. -/
def onGrid? (i : Interval) (x : Rat) (t : Int) : Option Nat :=
  let unit := powInt 10 t
  let below := (x / unit).floor.toNat
  let above := below + 1
  match i.contains (below * unit), i.contains (above * unit) with
  | false, false => none
  | true, false => some below
  | false, true => some above
  | true, true =>
    let down := x - below * unit
    let up := above * unit - x
    if down < up then some below
    else if up < down then some above
    else some (if below % 2 = 0 then below else above)

/-- The first grid with a hit, from the multiples of `10^t` on to finer ones. -/
def firstGrid (i : Interval) (x : Rat) : (fuel : Nat) → (t : Int) → Decimal
  | 0, t => ⟨(x / powInt 10 t).floor.toNat, t⟩
  | fuel + 1, t =>
    match onGrid? i x t with
    | some n => ⟨n, t⟩
    | none => firstGrid i x fuel (t - 1)

/-- A power of ten above a positive number and at most a hundred times as large. -/
def tenAbove (x : Rat) : Int :=
  if 1 ≤ x then (Nat.toDigits 10 x.floor.toNat).length
  else 1 - (Nat.toDigits 10 (1 / x).floor.toNat).length

/-- The shortest decimal number that reads back as `s · 2^e`, which is not zero. -/
def shortest (s : Nat) (e : Int) : Decimal :=
  let x := (s : Rat) * powInt 2 e
  firstGrid (intervalOf s e) x 24 (tenAbove x)

end Binary64

/-- The least number of digits of a written exponent. -/
def exponentWidth : Nat := 2

/-- The sign and digits of a written exponent. -/
def renderExponent (e : Int) : List Char :=
  let ds := Nat.toDigits 10 e.natAbs
  (if e < 0 then '-' else '+') :: (List.replicate (exponentWidth - ds.length) '0' ++ ds)

/-- A decimal number with a point, or with an exponent if it is below `10^-4` or not below
`10^16`. -/
def Decimal.render (d : Decimal) : List Char :=
  let ds := Nat.toDigits 10 d.digits
  let point : Int := ds.length + d.exponent
  if -4 < point && point ≤ 16 then
    if point ≤ 0 then '0' :: '.' :: (List.replicate (-point).toNat '0' ++ ds)
    else if ds.length ≤ point.toNat then
      ds ++ List.replicate (point.toNat - ds.length) '0' ++ ['.', '0']
    else ds.take point.toNat ++ '.' :: ds.drop point.toNat
  else
    let fraction := if ds.length = 1 then [] else '.' :: ds.drop 1
    ds.take 1 ++ fraction ++ 'e' :: renderExponent (point - 1)

/-- The shortest text that reads back as the value. -/
def Binary64.render : Binary64 → String
  | .nan => "nan"
  | .infinite negative => if negative then "-inf" else "inf"
  | .finite negative s e =>
    let size := if s = 0 then "0.0".toList else (shortest s e).render
    String.ofList (if negative then '-' :: size else size)

end SenderPolicy
