import Mathlib.Algebra.Order.Field.Power
import Mathlib.Data.Rat.Cast.Order
import Mathlib.Tactic.Linarith
import Mathlib.Tactic.Ring
import SenderPolicy.Numeral.Arithmetic

/-!
# Rounding is monotone

A quotient of two numbers is rounded in two steps: its exponent is found and its significand is
rounded at that exponent. Both steps are monotone, `exponentFor_mono` and `scaled_mono`, but a
lesser exponent goes with significands of any size. Between two exponents the bounds on the digits
of a significand decide (`scaled_exponentFor_mono`): at most 53 at the lesser exponent, and no fewer
than 53 at the greater. `exists_finite_of_le` puts this together for the values, the greatest of
which are infinite.
-/

namespace SenderPolicy

/-- A number over one is not rounded. -/
theorem divNearest_one (n : Nat) : divNearest n 1 = n := by
  have h := divNearest_bounds n Nat.one_pos
  omega

/-- A quotient in the middle between a number and the next one is rounded to the even one. -/
theorem divNearest_of_middle {a b q : Nat} (hb : 0 < b) (h : 2 * a = (2 * q + 1) * b) :
    divNearest a b % 2 = 0 := by
  have hdouble : 2 * a = b + 2 * b * q := by rw [h]; ring
  refine divNearest_even ?_
  calc 2 * (a % b) = 2 * a % (2 * b) := (Nat.mul_mod_mul_left 2 a b).symm
    _ = b % (2 * b) := by rw [hdouble, Nat.add_mul_mod_self_left]
    _ = b := Nat.mod_eq_of_lt (by omega)

/-- The greater of two quotients is not rounded to the lesser number. -/
theorem divNearest_mono {a b c d : Nat} (hb : 0 < b) (hd : 0 < d) (h : a * d ≤ c * b) :
    divNearest a b ≤ divNearest c d := by
  have hfirst := Nat.mul_le_mul_right d (divNearest_bounds a hb).1
  have hsecond := Nat.mul_le_mul_right b (divNearest_bounds c hd).2
  have heven := @divNearest_of_middle a b (divNearest c d) hb
  have heven' := @divNearest_of_middle c d (divNearest c d) hd
  by_contra hlt
  obtain ⟨gap, hgap⟩ : ∃ gap, divNearest a b = divNearest c d + 1 + gap :=
    Nat.exists_eq_add_of_le (by omega)
  rw [hgap] at hfirst heven
  generalize divNearest c d = q at *
  -- The bounds leave no room: both quotients lie in the middle between `q` and the next number.
  have hlow : (2 * q + 1) * (b * d) + 2 * (gap * (b * d)) ≤ 2 * (a * d) := by linarith
  have hhigh : 2 * (c * b) ≤ (2 * q + 1) * (b * d) := by linarith
  have hzero : gap * (b * d) = 0 := by omega
  have hmiddle : 2 * a * d = (2 * q + 1) * b * d := by linarith
  have hmiddle' : 2 * c * b = (2 * q + 1) * d * b := by linarith
  have hgap0 : gap = 0 := (Nat.mul_eq_zero.1 hzero).resolve_right (Nat.mul_pos hb hd).ne'
  have hfirst0 := heven (Nat.eq_of_mul_eq_mul_right hd hmiddle)
  have hsecond0 := heven' (Nat.eq_of_mul_eq_mul_right hb hmiddle')
  omega

/-- The powers by which significands are scaled are those of the field. -/
theorem powInt_two (e : Int) : powInt 2 e = (2 : ℚ) ^ e := by
  unfold powInt
  split
  · rename_i h
    obtain ⟨n, rfl⟩ := Int.eq_ofNat_of_zero_le h
    simp
  · rename_i h
    obtain ⟨n, hn⟩ := Int.eq_ofNat_of_zero_le (a := -e) (by omega)
    obtain rfl : e = -n := by omega
    simp

/-- A number has as many binary digits as its logarithm says. -/
theorem log2_bounds {n : Nat} (hn : 0 < n) :
    (2 : ℚ) ^ (n.log2 : Int) ≤ n ∧ (n : ℚ) < 2 ^ ((n.log2 : Int) + 1) := by
  have hlow : 2 ^ n.log2 ≤ n := Nat.log2_self_le hn.ne'
  have hhigh : n < 2 ^ (n.log2 + 1) := Nat.lt_log2_self
  constructor
  · rw [zpow_natCast]
    exact_mod_cast hlow
  · exact_mod_cast hhigh

namespace Binary64

variable {num den num' den' : Nat} {e : Int}

/-- Whether a quotient is below a power of two is seen without dividing. -/
theorem below_pow_iff (hd : 0 < den) (k : Int) :
    (if 0 ≤ k then decide (num < den * Nat.pow 2 k.toNat)
      else decide (num * Nat.pow 2 (-k).toNat < den)) = true ↔ (num : ℚ) / den < 2 ^ k := by
  have hden : (0 : ℚ) < den := by exact_mod_cast hd
  split
  · rename_i h
    obtain ⟨n, rfl⟩ := Int.eq_ofNat_of_zero_le h
    rw [decide_eq_true_eq, zpow_natCast, div_lt_iff₀ hden, mul_comm]
    norm_cast
  · rename_i h
    obtain ⟨n, hn⟩ := Int.eq_ofNat_of_zero_le (a := -k) (by omega)
    obtain rfl : k = -n := by omega
    rw [decide_eq_true_eq, zpow_neg, zpow_natCast, ← one_div, div_lt_div_iff₀ hden (by positivity)]
    norm_cast
    simp

/-- The exponent of a quotient is the least one at which it has at most 53 binary digits. -/
theorem exponentFor_spec (hn : 0 < num) (hd : 0 < den) :
    minExponent ≤ exponentFor num den ∧
      (num : ℚ) / den < 2 ^ (exponentFor num den + 53) ∧
      (minExponent < exponentFor num den → (2 : ℚ) ^ (exponentFor num den + 52) ≤ num / den) := by
  have hden : (0 : ℚ) < den := by exact_mod_cast hd
  obtain ⟨hn1, hn2⟩ := log2_bounds hn
  obtain ⟨hd1, hd2⟩ := log2_bounds hd
  have hbelow := @below_pow_iff num den hd ((num.log2 : Int) - den.log2)
  unfold exponentFor
  -- The quotient of the numbers has as many digits as the difference of their logarithms, or one
  -- less.
  have hquot : (2 : ℚ) ^ ((num.log2 : Int) - den.log2 - 1) ≤ num / den ∧
      (num : ℚ) / den < 2 ^ ((num.log2 : Int) - den.log2 + 1) := by
    rw [le_div_iff₀ hden, div_lt_iff₀ hden]
    constructor
    · calc (2 : ℚ) ^ ((num.log2 : Int) - den.log2 - 1) * den
          ≤ 2 ^ ((num.log2 : Int) - den.log2 - 1) * 2 ^ ((den.log2 : Int) + 1) := by gcongr
        _ = 2 ^ (num.log2 : Int) := by rw [← zpow_add₀ two_ne_zero]; congr 1; omega
        _ ≤ num := hn1
    · calc (num : ℚ) < 2 ^ ((num.log2 : Int) + 1) := hn2
        _ = 2 ^ ((num.log2 : Int) - den.log2 + 1) * 2 ^ (den.log2 : Int) := by
            rw [← zpow_add₀ two_ne_zero]; congr 1; omega
        _ ≤ 2 ^ ((num.log2 : Int) - den.log2 + 1) * den := by gcongr
  simp only
  generalize (num.log2 : Int) - den.log2 = k at *
  generalize (if 0 ≤ k then decide (num < den * Nat.pow 2 k.toNat)
      else decide (num * Nat.pow 2 (-k).toNat < den)) = low at *
  -- So the leading digit of the quotient stands at `lead`.
  obtain ⟨lead, hlead, hge, hlt⟩ : ∃ lead, (if low = true then k - 53 else k - 52) = lead - 52 ∧
      (2 : ℚ) ^ lead ≤ num / den ∧ (num : ℚ) / den < 2 ^ (lead + 1) := by
    cases low with
    | true =>
      refine ⟨k - 1, by rw [if_pos rfl]; omega, hquot.1, ?_⟩
      rw [Int.sub_add_cancel]
      exact hbelow.1 rfl
    | false => exact ⟨k, rfl, not_lt.1 fun h => Bool.noConfusion (hbelow.2 h), hquot.2⟩
  rw [hlead]
  refine ⟨le_max_right _ _, ?_, fun hmin => ?_⟩
  · refine lt_of_lt_of_le hlt (zpow_le_zpow_right₀ one_le_two ?_)
    omega
  · have hmax : max (lead - 52) minExponent + 52 = lead := by omega
    rwa [hmax]

/-- The greater of two quotients has no lesser exponent. -/
theorem exponentFor_mono (hn : 0 < num) (hd : 0 < den) (hn' : 0 < num') (hd' : 0 < den')
    (h : (num : ℚ) / den ≤ num' / den') : exponentFor num den ≤ exponentFor num' den' := by
  obtain ⟨-, -, hlow⟩ := exponentFor_spec hn hd
  obtain ⟨hmin, hhigh, -⟩ := exponentFor_spec hn' hd'
  by_contra hlt
  have hpow : (2 : ℚ) ^ (exponentFor num' den' + 53) ≤ 2 ^ (exponentFor num den + 52) :=
    zpow_le_zpow_right₀ one_le_two (by omega)
  have hcycle : (num : ℚ) / den < num / den :=
    calc (num : ℚ) / den ≤ num' / den' := h
      _ < 2 ^ (exponentFor num' den' + 53) := hhigh
      _ ≤ 2 ^ (exponentFor num den + 52) := hpow
      _ ≤ num / den := hlow (by omega)
  exact lt_irrefl _ hcycle

/-- A scaled quotient is the quotient of two numbers, rounded. -/
theorem exists_scaled_eq (num : Nat) (hd : 0 < den) (e : Int) :
    ∃ a b : Nat, 0 < b ∧ scaled num den e = divNearest a b ∧ (a : ℚ) / b = num / den / 2 ^ e := by
  unfold scaled
  split
  · rename_i h
    obtain ⟨n, rfl⟩ := Int.eq_ofNat_of_zero_le h
    refine ⟨num, den * Nat.pow 2 n, Nat.mul_pos hd (Nat.two_pow_pos n), rfl, ?_⟩
    push_cast
    simp [div_div]
  · rename_i h
    obtain ⟨n, hn⟩ := Int.eq_ofNat_of_zero_le (a := -e) (by omega)
    obtain rfl : e = -n := by omega
    refine ⟨num * Nat.pow 2 n, den, hd, by simp, ?_⟩
    simp [div_mul_eq_mul_div]

/-- The greater of two quotients is scaled to no lesser number. -/
theorem scaled_mono (hd : 0 < den) (hd' : 0 < den') (h : (num : ℚ) / den ≤ num' / den') (e : Int) :
    scaled num den e ≤ scaled num' den' e := by
  obtain ⟨a, b, hb, hs, hq⟩ := exists_scaled_eq num hd e
  obtain ⟨c, d, hd, hs', hq'⟩ := exists_scaled_eq num' hd' e
  rw [hs, hs']
  refine divNearest_mono hb hd ?_
  have hle : (a : ℚ) / b ≤ c / d := by
    rw [hq, hq']
    gcongr
  rw [div_le_div_iff₀ (by exact_mod_cast hb) (by exact_mod_cast hd)] at hle
  exact_mod_cast hle

/-- A quotient of at most a whole number of units is scaled to at most that number. -/
theorem scaled_le (hd : 0 < den) {n : Nat} (h : (num : ℚ) / den ≤ n * 2 ^ e) :
    scaled num den e ≤ n := by
  obtain ⟨a, b, hb, hs, hq⟩ := exists_scaled_eq num hd e
  have hle : (a : ℚ) / b ≤ n := by
    rw [hq, div_le_iff₀ (by positivity)]
    exact h
  rw [div_le_iff₀ (by exact_mod_cast hb)] at hle
  rw [hs, ← divNearest_one n]
  exact divNearest_mono hb Nat.one_pos (by rw [mul_one]; exact_mod_cast hle)

/-- A quotient of at least a whole number of units is scaled to at least that number. -/
theorem le_scaled (hd : 0 < den) {n : Nat} (h : n * (2 : ℚ) ^ e ≤ num / den) :
    n ≤ scaled num den e := by
  obtain ⟨a, b, hb, hs, hq⟩ := exists_scaled_eq num hd e
  have hle : (n : ℚ) ≤ a / b := by
    rw [hq, le_div_iff₀ (by positivity)]
    exact h
  rw [le_div_iff₀ (by exact_mod_cast hb)] at hle
  rw [hs, ← divNearest_one n]
  exact divNearest_mono Nat.one_pos hb (by rw [mul_one]; exact_mod_cast hle)

/-- A quotient is scaled at its exponent to at most 53 binary digits, or to the least number of 54.
-/
theorem scaled_exponentFor_le (hn : 0 < num) (hd : 0 < den) :
    scaled num den (exponentFor num den) ≤ 2 ^ 53 := by
  obtain ⟨-, hhigh, -⟩ := exponentFor_spec hn hd
  refine scaled_le hd (le_of_lt ?_)
  calc (num : ℚ) / den < 2 ^ (exponentFor num den + 53) := hhigh
    _ = ((2 ^ 53 : Nat) : ℚ) * 2 ^ exponentFor num den := by
        rw [zpow_add₀ two_ne_zero, mul_comm]
        norm_num

/-- Above the least exponent a quotient is scaled to no fewer than 53 binary digits. -/
theorem le_scaled_exponentFor (hn : 0 < num) (hd : 0 < den)
    (h : minExponent < exponentFor num den) : 2 ^ 52 ≤ scaled num den (exponentFor num den) := by
  obtain ⟨-, -, hlow⟩ := exponentFor_spec hn hd
  refine le_scaled hd ?_
  calc ((2 ^ 52 : Nat) : ℚ) * 2 ^ exponentFor num den = 2 ^ (exponentFor num den + 52) := by
        rw [zpow_add₀ two_ne_zero, mul_comm]
        norm_num
    _ ≤ num / den := hlow h

/-- The greater of two quotients is scaled to no lesser value, each at its own exponent. -/
theorem scaled_exponentFor_mono (hn : 0 < num) (hd : 0 < den) (hn' : 0 < num') (hd' : 0 < den')
    (h : (num : ℚ) / den ≤ num' / den') :
    (scaled num den (exponentFor num den) : ℚ) * 2 ^ exponentFor num den ≤
      scaled num' den' (exponentFor num' den') * 2 ^ exponentFor num' den' := by
  rcases (exponentFor_mono hn hd hn' hd' h).eq_or_lt with heq | hlt
  · rw [heq]
    have hmono := scaled_mono hd hd' h (exponentFor num' den')
    gcongr
  · -- At a lesser exponent even the greatest significand is no more than the least at the other.
    have hmost := scaled_exponentFor_le hn hd
    have hleast := le_scaled_exponentFor hn' hd' (lt_of_le_of_lt (exponentFor_spec hn hd).1 hlt)
    calc (scaled num den (exponentFor num den) : ℚ) * 2 ^ exponentFor num den
        ≤ ((2 ^ 53 : Nat) : ℚ) * 2 ^ exponentFor num den := by gcongr
      _ = ((2 ^ 52 : Nat) : ℚ) * 2 ^ (exponentFor num den + 1) := by
          rw [zpow_add_one₀ two_ne_zero]
          push_cast
          ring
      _ ≤ scaled num' den' (exponentFor num' den') * 2 ^ exponentFor num' den' := by
          gcongr
          · exact one_le_two
          · omega

/-- The exponent of the value nearest to a quotient: the least number of 54 digits is written with
53 of them. -/
def roundedExponent (num den : Nat) : Int :=
  if scaled num den (exponentFor num den) = 2 ^ 53 then exponentFor num den + 1
  else exponentFor num den

/-- The greater of two quotients is rounded at no lesser exponent. -/
theorem roundedExponent_mono (hn : 0 < num) (hd : 0 < den) (hn' : 0 < num') (hd' : 0 < den')
    (h : (num : ℚ) / den ≤ num' / den') : roundedExponent num den ≤ roundedExponent num' den' := by
  unfold roundedExponent
  rcases (exponentFor_mono hn hd hn' hd' h).eq_or_lt with heq | hlt
  · have hmono := scaled_mono hd hd' h (exponentFor num' den')
    have hmost := scaled_exponentFor_le hn' hd'
    rw [heq]
    split <;> split <;> omega
  · split <;> split <;> omega

/-- A quotient that is not zero is rounded to a number of units, unless the exponent is too great.
-/
theorem exists_ofRatio_eq (negative : Bool) (den : Nat) (hn : num ≠ 0) :
    ∃ s : Nat, ofRatio negative num den =
        (if maxExponent < roundedExponent num den then .infinite negative
          else .finite negative s (roundedExponent num den)) ∧
      (s : ℚ) * 2 ^ roundedExponent num den =
        scaled num den (exponentFor num den) * 2 ^ exponentFor num den := by
  have hfull : 2 * leastFull = 2 ^ 53 := rfl
  unfold ofRatio roundedExponent
  rw [if_neg hn]
  simp only [hfull]
  split
  · rename_i hs
    refine ⟨leastFull, rfl, ?_⟩
    rw [hs, zpow_add_one₀ two_ne_zero, leastFull]
    push_cast
    ring
  · exact ⟨_, rfl, rfl⟩

/-- A quotient is rounded to a finite value if a greater one is, and to no greater value. -/
theorem exists_finite_of_le (hd : 0 < den) (hd' : 0 < den') (h : (num : ℚ) / den ≤ num' / den')
    {negative' : Bool} {s' : Nat} {e' : Int}
    (hf : ofRatio negative' num' den' = .finite negative' s' e') (negative : Bool) :
    ∃ s e, ofRatio negative num den = .finite negative s e ∧ (s : ℚ) * 2 ^ e ≤ s' * 2 ^ e' := by
  rcases Nat.eq_zero_or_pos num with rfl | hn
  · exact ⟨0, minExponent, rfl, by rw [Nat.cast_zero, zero_mul]; positivity⟩
  have hn' : 0 < num' := by
    by_contra hzero
    obtain rfl : num' = 0 := by omega
    have hpos : (0 : ℚ) < num / den := div_pos (by exact_mod_cast hn) (by exact_mod_cast hd)
    rw [Nat.cast_zero, zero_div] at h
    exact absurd h (not_le.2 hpos)
  obtain ⟨s, hr, hs⟩ := exists_ofRatio_eq negative den hn.ne'
  obtain ⟨t, hr', ht⟩ := exists_ofRatio_eq negative' den' hn'.ne'
  have hmono := roundedExponent_mono hn hd hn' hd' h
  rw [hf] at hr'
  split at hr'
  · cases hr'
  · rename_i hmax
    cases hr'
    refine ⟨s, _, by rw [hr, if_neg (by omega)], ?_⟩
    rw [hs, ht]
    exact scaled_exponentFor_mono hn hd hn' hd' h

end Binary64

end SenderPolicy
