import SenderPolicy.Proofs.Numeral.Order
import SenderPolicy.RateLimit

/-!
# Sliding windows

A rate limit looks at one of a client's earlier times only. Since they are kept in their order, that
is as good as to count all of those that lie in the window (`RateLimit.admits_iff`).

The window slides with the time: one that ends later starts no earlier. On an exact clock this is
plain, and on a machine it holds because rounding is monotone. `SlidingSeconds` asks no more of a
clock than this, and that its times are ordered.
-/

namespace SenderPolicy

/-! ## Clocks -/

/-- Numbers of seconds in which a window that ends later starts no earlier. -/
class SlidingSeconds (τ : Type) [Seconds τ] : Prop where
  /-- What is at most a number is at most every greater one. -/
  le_trans {a b c : τ} : a ≤ b → b ≤ c → a ≤ c
  /-- What is less than a number is less than every greater one. -/
  lt_of_lt_of_le {a b c : τ} : a < b → b ≤ c → a < c
  /-- What comes after the start of a window is in every window of that length that ends earlier, or
  comes after it. -/
  sub_le {a b x : τ} (length : τ) : a ≤ b → b - length < x → a - length ≤ x

/-- Windows on an exact clock slide. -/
instance : SlidingSeconds Rat where
  le_trans := le_trans
  lt_of_lt_of_le := lt_of_lt_of_le
  sub_le {a b x} length hab hx :=
    calc a - length ≤ b - length := by gcongr
      _ ≤ x := hx.le

namespace Binary64

variable {x y z : Binary64}

/-- A value is at most another one if and only if both are numbers and it is below. -/
theorem isAtMost_iff : x.isAtMost y = true ↔
    x.isNumber = true ∧ y.isNumber = true ∧ Below x y := by
  constructor
  · intro h
    have hbelow := below_of_isAtMost h
    unfold isAtMost at h
    simp only [Bool.and_eq_true] at h
    exact ⟨h.1.1, h.1.2, hbelow⟩
  · rintro ⟨hx, hy, h⟩
    have hless : y.isLess x = false := by
      cases h with
      | nan => cases hx
      | bottom => rcases y with _ | (_ | _) | _ <;> rfl
      | top => rcases x with _ | (_ | _) | _ <;> rfl
      | finite h => simpa [isLess] using h
    simp [isAtMost, hx, hy, hless]

/-- A value is less than another one if and only if both are numbers and the other is not below. -/
theorem isLess_iff : x.isLess y = true ↔
    x.isNumber = true ∧ y.isNumber = true ∧ ¬ Below y x := by
  constructor
  · intro h
    have hnumbers : x.isNumber = true ∧ y.isNumber = true := by
      rcases x with _ | _ | _ <;> rcases y with _ | _ | _ <;> simp_all [isLess, isNumber]
    refine ⟨hnumbers.1, hnumbers.2, fun hbelow => ?_⟩
    have hle := isAtMost_iff.2 ⟨hnumbers.2, hnumbers.1, hbelow⟩
    simp [isAtMost, h] at hle
  · rintro ⟨hx, hy, h⟩
    by_contra hless
    exact h (below_of_isAtMost (by simp [isAtMost, hx, hy, hless]))

/-- Of two values one is below the other. -/
theorem below_total (x y : Binary64) : Below x y ∨ Below y x := by
  rcases x with ⟨a, s, e⟩ | (_ | _) | _
  · rcases y with ⟨b, t, f⟩ | (_ | _) | _
    · exact (le_total (signedValue a s e) (signedValue b t f)).imp .finite .finite
    · exact .inl (.top _)
    · exact .inr (.bottom _)
    · exact .inr (.nan _)
  · exact .inr (.top y)
  · exact .inl (.bottom y)
  · exact .inl (.nan y)

/-- A rounded fraction is a number. -/
theorem isNumber_ofRat (p : Rat) : (ofRat p).isNumber = true := by
  rcases ofRatio_cases (p < 0) p.num.natAbs p.den with h | ⟨s, e, h⟩ <;> rw [ofRat, h] <;> rfl

/-- A sum with a lesser value is a number if that with a greater one is, and is not the greatest. -/
theorem isNumber_sum (h : x.isAtMost y = true) (hnumber : (sum y z).isNumber = true)
    (hless : ¬ Below (.infinite false) (sum y z)) : (sum x z).isNumber = true := by
  obtain ⟨hx, hy, hbelow⟩ := isAtMost_iff.1 h
  rcases z with ⟨c, u, g⟩ | (_ | _) | _
  · rcases x with ⟨a, s, e⟩ | _ | _
    · simp only [sum]
      split
      · rfl
      · exact isNumber_ofRat _
    · rfl
    · cases hx
  · -- With the positive infinity the greater sum is the greatest, or no number.
    rcases y with _ | (_ | _) | _
    · exact absurd (.top _) hless
    · exact absurd (.top _) hless
    · cases hnumber
    · cases hy
  · -- With the negative infinity the lesser value could only be the greatest.
    cases hbelow with
    | nan => cases hx
    | bottom | finite => rfl
    | top => cases hnumber
  · rcases y with _ | _ | _ <;> cases hnumber

end Binary64

/-- Windows slide on a machine, though their starts are rounded. -/
instance : SlidingSeconds Binary64 where
  le_trans {a b c} hab hbc := by
    obtain ⟨ha, -, hab⟩ := Binary64.isAtMost_iff.1 hab
    obtain ⟨-, hc, hbc⟩ := Binary64.isAtMost_iff.1 hbc
    exact Binary64.isAtMost_iff.2 ⟨ha, hc, hab.trans hbc⟩
  lt_of_lt_of_le {a b c} hab hbc := by
    obtain ⟨ha, -, hab⟩ := Binary64.isLess_iff.1 hab
    obtain ⟨-, hc, hbc⟩ := Binary64.isAtMost_iff.1 hbc
    exact Binary64.isLess_iff.2 ⟨ha, hc, fun h => hab (hbc.trans h)⟩
  sub_le {a b x} length hab hx := by
    obtain ⟨hnumber, hx, hless⟩ := Binary64.isLess_iff.1 hx
    have hstart : Binary64.Below (a - length) (b - length) :=
      (Binary64.below_of_isAtMost hab).sum length.opposite
    refine Binary64.isAtMost_iff.2 ⟨Binary64.isNumber_sum hab hnumber fun h => ?_, hx, ?_⟩
    · exact hless ((Binary64.Below.top x).trans h)
    · exact hstart.trans ((Binary64.below_total _ x).resolve_right hless)

/-! ## Counting -/

/-- In a list in which what has a property comes first, there are more than `n` items with the
property if and only if the item at `n` has it. -/
theorem lt_countP_iff {α : Type} {p : α → Bool} {xs : List α}
    (h : xs.Pairwise fun x y => p y = true → p x = true) (n : Nat) :
    n < xs.countP p ↔ xs[n]?.any p = true := by
  induction xs generalizing n with
  | nil => simp
  | cons x xs ih =>
    obtain ⟨hx, hxs⟩ := List.pairwise_cons.1 h
    by_cases hp : p x = true
    · -- One item more is counted, and the index moves by one.
      rw [List.countP_cons_of_pos hp]
      cases n with
      | zero => simp [hp]
      | succ n => simpa using ih hxs n
    · -- No item has the property if the first has not.
      have hnone : ∀ y ∈ x :: xs, ¬ p y = true := by
        intro y hy
        obtain rfl | hy := List.mem_cons.1 hy
        · exact hp
        · exact fun hpy => hp (hx y hy hpy)
      rw [List.countP_eq_zero.2 hnone]
      simp only [Nat.not_lt_zero, Option.any_eq_true, false_iff, not_exists, not_and]
      exact fun y hy => hnone y (List.mem_of_getElem? hy)

namespace RateLimit

variable {τ : Type} [Seconds τ] (l : RateLimit τ)

/-- Whether a time lies in the window that ends at the time `t`, after its start. -/
def covers (t x : τ) : Bool := l.start t < x && x ≤ t

variable {l} {now t x : τ} {times : List τ}

/-- A window covers what comes after its start and not after its end. -/
theorem covers_iff : l.covers t x = true ↔ l.start t < x ∧ x ≤ t := by
  rw [covers, Bool.and_eq_true, decide_eq_true_eq, decide_eq_true_eq]

variable [SlidingSeconds τ]

/-- A request is admitted if and only if less than the limit were admitted since the start of the
window. -/
theorem admits_iff (h : times.Pairwise fun later earlier => earlier ≤ later) :
    l.admits now times = true ↔ times.countP (l.start now ≤ ·) < l.requests := by
  -- The times in the window are the latest ones, so they come first.
  have hfirst : times.Pairwise fun later earlier =>
      decide (l.start now ≤ earlier) = true → decide (l.start now ≤ later) = true := by
    refine h.imp fun hle hearlier => ?_
    rw [decide_eq_true_eq] at hearlier ⊢
    exact SlidingSeconds.le_trans hearlier hle
  have hnot : ∀ at? : Option τ, (at?.all fun t => !decide (l.start now ≤ t)) = true ↔
      ¬ (at?.any fun t => decide (l.start now ≤ t)) = true := fun at? => by cases at? <;> simp
  unfold admits
  cases l.requests with
  | zero => simp
  | succ n =>
    rw [Nat.lt_succ_iff, ← Nat.not_lt, lt_countP_iff hfirst]
    exact hnot times[n]?

/-- A window covers no more times than have come since the start of a window that ends in it. -/
theorem countP_covers_le (h : now ≤ t) (times : List τ) :
    times.countP (l.covers t) ≤ times.countP (l.start now ≤ ·) := by
  refine List.countP_mono_left fun x _ hx => ?_
  exact decide_eq_true (SlidingSeconds.sub_le l.window h (covers_iff.1 hx).1)

end RateLimit

end SenderPolicy
