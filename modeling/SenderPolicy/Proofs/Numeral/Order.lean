import Mathlib.Algebra.Order.Field.Basic
import SenderPolicy.Proofs.Numeral.Rounding

/-!
# Sums of floating-point values are monotone

The sum of two values is rounded, so it may be equal for different summands, and it may be no number
at all. `Binary64.Below` is the order by which such sums are compared: the value that is no number
stands at the bottom, with the negative infinity. Rounding keeps it (`below_ofRat`), and a sum keeps
it in both summands (`Below.sum`).
-/

namespace SenderPolicy.Binary64

/-- The order of the values in which a value that is no number stands below all others. -/
inductive Below : Binary64 → Binary64 → Prop
  /-- Nothing is below a value that is no number but what is at the bottom with it. -/
  | nan (y : Binary64) : Below .nan y
  /-- The negative infinity stands at the bottom. -/
  | bottom (y : Binary64) : Below (.infinite true) y
  /-- The positive infinity stands at the top. -/
  | top (x : Binary64) : Below x (.infinite false)
  /-- Finite values are ordered as the numbers that they stand for. -/
  | finite {a b : Bool} {s t : Nat} {e f : Int} (h : signedValue a s e ≤ signedValue b t f) :
      Below (.finite a s e) (.finite b t f)

variable {x y : Binary64}

/-- Below what is below. -/
theorem Below.trans {z : Binary64} (h : Below x y) (h' : Below y z) : Below x z := by
  cases h with
  | nan => exact .nan z
  | bottom => exact .bottom z
  | top =>
    cases h'
    exact .top x
  | finite hxy =>
    cases h' with
    | top => exact .top _
    | finite hyz => exact .finite (hxy.trans hyz)

/-- A value that is at most another one is below it. -/
theorem below_of_isAtMost (h : x.isAtMost y = true) : Below x y := by
  unfold isAtMost at h
  cases x with
  | nan => exact .nan y
  | infinite a =>
    cases a with
    | true => exact .bottom y
    | false =>
      cases y with
      | nan => cases h
      | infinite b =>
        cases b with
        | true => cases h
        | false => exact .top _
      | finite => cases h
  | finite a s e =>
    cases y with
    | nan => cases h
    | infinite b =>
      cases b with
      | true => cases h
      | false => exact .top _
    | finite b t f => exact .finite (by simpa [isNumber, isLess] using h)

/-- The number of a finite value is positive if no sign stands before it. -/
theorem signedValue_false (s : Nat) (e : Int) : signedValue false s e = (s : ℚ) * 2 ^ e := by
  simp [signedValue, powInt_two]

/-- The number of a finite value with a sign is the opposite of that without. -/
theorem signedValue_true (s : Nat) (e : Int) : signedValue true s e = -((s : ℚ) * 2 ^ e) := by
  simp [signedValue, powInt_two]

/-- A zero stands for zero, whatever its sign. -/
theorem signedValue_zero (a : Bool) (e : Int) : signedValue a 0 e = 0 := by
  simp [signedValue]

/-- What is above a positive value is positive. -/
theorem Below.zero_lt (h : Below x y) (hx : 0 < x) : 0 < y := by
  cases h with
  | nan => exact absurd hx Bool.noConfusion
  | bottom => exact absurd hx Bool.noConfusion
  | top => rfl
  | @finite a b s t e f hle =>
    have hpos : signedValue false 0 minExponent < signedValue a s e := of_decide_eq_true hx
    exact decide_eq_true (hpos.trans_le hle)

/-! ## Rounding -/

/-- A quotient is rounded to a value of its sign. -/
theorem ofRatio_cases (negative : Bool) (num den : Nat) :
    ofRatio negative num den = .infinite negative ∨
      ∃ s e, ofRatio negative num den = .finite negative s e := by
  rcases eq_or_ne num 0 with rfl | hn
  · exact .inr ⟨0, minExponent, rfl⟩
  · obtain ⟨s, hs, -⟩ := exists_ofRatio_eq negative den hn
    rw [hs]
    split
    · exact .inl rfl
    · exact .inr ⟨s, _, rfl⟩

/-- A quotient without a sign is rounded to no value below that of a lesser one. -/
theorem below_ofRatio_false {num den num' den' : Nat} (hd : 0 < den) (hd' : 0 < den')
    (h : (num : ℚ) / den ≤ num' / den') :
    Below (ofRatio false num den) (ofRatio false num' den') := by
  rcases ofRatio_cases false num' den' with htop | ⟨t, f, hf⟩
  · rw [htop]
    exact .top _
  · obtain ⟨s, e, he, hle⟩ := exists_finite_of_le hd hd' h hf false
    rw [he, hf]
    refine .finite ?_
    rwa [signedValue_false, signedValue_false]

/-- A quotient with a sign is rounded to no value above that of a lesser one. -/
theorem below_ofRatio_true {num den num' den' : Nat} (hd : 0 < den) (hd' : 0 < den')
    (h : (num : ℚ) / den ≤ num' / den') :
    Below (ofRatio true num' den') (ofRatio true num den) := by
  rcases ofRatio_cases true num' den' with hbottom | ⟨t, f, hf⟩
  · rw [hbottom]
    exact .bottom _
  · obtain ⟨s, e, he, hle⟩ := exists_finite_of_le hd hd' h hf true
    rw [he, hf]
    refine .finite ?_
    rw [signedValue_true, signedValue_true]
    exact neg_le_neg hle

/-- A value with a sign is below every value without. -/
theorem below_ofRatio_true_false (num den num' den' : Nat) :
    Below (ofRatio true num den) (ofRatio false num' den') := by
  rcases ofRatio_cases true num den with hbottom | ⟨s, e, he⟩
  · rw [hbottom]
    exact .bottom _
  · rcases ofRatio_cases false num' den' with htop | ⟨t, f, hf⟩
    · rw [htop]
      exact .top _
    · rw [he, hf]
      refine .finite ?_
      rw [signedValue_true, signedValue_false]
      exact (neg_nonpos.2 (by positivity)).trans (by positivity)

/-- The size of a fraction is the quotient of its parts without the sign. -/
theorem natAbs_div_den (p : ℚ) : (p.num.natAbs : ℚ) / p.den = |p| := by
  rw [Nat.cast_natAbs, Int.cast_abs]
  conv_rhs => rw [← Rat.num_div_den p, abs_div, Nat.abs_cast]

/-- Rounding is monotone. -/
theorem below_ofRat {p q : ℚ} (h : p ≤ q) : Below (ofRat p) (ofRat q) := by
  unfold ofRat
  rcases lt_or_ge p 0 with hp | hp
  · rcases lt_or_ge q 0 with hq | hq
    · rw [decide_eq_true hp, decide_eq_true hq]
      refine below_ofRatio_true q.pos p.pos ?_
      rw [natAbs_div_den, natAbs_div_den, abs_of_neg hp, abs_of_neg hq]
      exact neg_le_neg h
    · rw [decide_eq_true hp, decide_eq_false hq.not_gt]
      exact below_ofRatio_true_false _ _ _ _
  · have hq : 0 ≤ q := hp.trans h
    rw [decide_eq_false hp.not_gt, decide_eq_false hq.not_gt]
    refine below_ofRatio_false p.pos q.pos ?_
    rw [natAbs_div_den, natAbs_div_den, abs_of_nonneg hp, abs_of_nonneg hq]
    exact h

/-! ## Sums -/

/-- The sum of finite values is their exact sum, rounded, up to the sign of a zero. -/
theorem below_sum_finite (a b : Bool) (s t : Nat) (e f : Int) :
    Below (sum (.finite a s e) (.finite b t f)) (ofRat (signedValue a s e + signedValue b t f)) ∧
      Below (ofRat (signedValue a s e + signedValue b t f))
        (sum (.finite a s e) (.finite b t f)) := by
  simp only [sum]
  split
  · rename_i hp
    have hzero : ∀ a b, Below (zero a) (zero b) := fun a b =>
      .finite (by rw [signedValue_zero, signedValue_zero])
    rw [hp]
    exact ⟨hzero _ false, hzero false _⟩
  · exact ⟨below_ofRat le_rfl, below_ofRat le_rfl⟩

/-- A sum is monotone in its first summand. -/
theorem Below.sum (h : Below x y) (z : Binary64) : Below (sum x z) (sum y z) := by
  have hnan : ∀ x : Binary64, x.sum .nan = .nan := fun x => by cases x <;> rfl
  cases z with
  | nan =>
    rw [hnan]
    exact .nan _
  | infinite c =>
    cases h with
    | nan => exact .nan _
    | bottom =>
      cases c with
      | true => exact .bottom _
      | false => exact .nan _
    | top =>
      cases c with
      | true => rcases x with _ | (_ | _) | _ <;> first | exact .nan _ | exact .bottom _
      | false => exact .top _
    | finite =>
      cases c with
      | true => exact .bottom _
      | false => exact .top _
  | finite c u g =>
    cases h with
    | nan => exact .nan _
    | bottom => exact .bottom _
    | top => exact .top _
    | @finite a b s t e f hle =>
      have hround : Below (ofRat (signedValue a s e + signedValue c u g))
          (ofRat (signedValue b t f + signedValue c u g)) := below_ofRat (by gcongr)
      exact (below_sum_finite a c s u e g).1.trans
        (hround.trans (below_sum_finite b c t u f g).2)

/-- If the sum of a value and the lesser of two exceeds another value, so does the sum with the
greater. -/
theorem zero_lt_sub_of_le (start t : Binary64) (h : x ≤ y) (hpos : 0 < start + x - t) :
    0 < start + y - t := by
  have hadd : Below (start + x) (start + y) := by
    show Below (Binary64.sum start x) (Binary64.sum start y)
    rw [sum_comm start x, sum_comm start y]
    exact (below_of_isAtMost h).sum start
  exact (hadd.sum t.opposite).zero_lt hpos

end SenderPolicy.Binary64
