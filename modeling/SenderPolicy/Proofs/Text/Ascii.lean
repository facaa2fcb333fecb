import Mathlib.Data.List.Basic
import Mathlib.Data.List.Induction
import SenderPolicy.Text.DecimalDigit
import SenderPolicy.Text.Letter

/-!
# Letters, digits and numerals of ASCII

The letters and the digits of ASCII are those Latin letters and decimal digits whose numbers are
below 128. The numeral of a number is its shortest one in digits of ASCII: a text of such digits is
the numeral of its value unless it has a needless zero in front (`eq_numeral_iff`).
-/

namespace SenderPolicy

/-! ## Letters and digits -/

/-- The letters of ASCII by their numbers. -/
theorem CodePoint.isAlpha_iff {c : CodePoint} : c.isAlpha = true ↔
    (0x41 ≤ c.toNat ∧ c.toNat ≤ 0x5A) ∨ (0x61 ≤ c.toNat ∧ c.toNat ≤ 0x7A) := by
  cases c with
  | char c =>
    show (decide (65 ≤ c.val ∧ c.val ≤ 90) ||
      decide (97 ≤ c.val) && decide (c.val ≤ 122)) = true ↔ _
    simp only [Bool.or_eq_true, Bool.and_eq_true, decide_eq_true_eq, UInt32.le_iff_toNat_le]
    rfl
  | half n =>
    simp only [isAlpha, isChar, Bool.false_eq_true, toNat, false_iff]
    omega

/-- The digits of ASCII by their numbers. -/
theorem CodePoint.isDigit_iff {c : CodePoint} :
    c.isDigit = true ↔ 0x30 ≤ c.toNat ∧ c.toNat ≤ 0x39 := by
  cases c with
  | char c =>
    show c.isDigit = true ↔ _
    simp only [Char.isDigit, Bool.and_eq_true, decide_eq_true_eq, ge_iff_le,
      UInt32.le_iff_toNat_le]
    rfl
  | half n =>
    simp only [isDigit, isChar, Bool.false_eq_true, toNat, false_iff]
    omega

section Classes

variable {c : CodePoint}

/-- The decimal digits in ASCII are its digits. -/
theorem isDigit_iff_isDecimalDigit :
    c.isDigit = true ↔ isDecimalDigit c = true ∧ c.toNat < 0x80 := by
  have hascii : ∀ n : Fin 0x80, isDecimalDigit (CodePoint.ofNat n) = true →
      (CodePoint.ofNat n).isDigit = true := by
    decide +kernel
  constructor
  · intro h
    have hc := CodePoint.isDigit_iff.1 h
    refine ⟨?_, by omega⟩
    cases c with
    | char c => exact isDecimalDigit_of_isDigit h
    | half n => cases h
  · rintro ⟨h, hc⟩
    have hdigit := hascii ⟨c.toNat, hc⟩
    rw [CodePoint.ofNat_toNat] at hdigit
    exact hdigit h

/-- The Latin letters in ASCII are its letters. -/
theorem isAlpha_iff_isLatinLetter :
    c.isAlpha = true ↔ isLatinLetter c = true ∧ c.toNat < 0x80 := by
  have hfolded : ∀ d ∈ foldedLetters, ¬ d.toNat < 0x80 := by decide
  constructor
  · intro h
    have hc := CodePoint.isAlpha_iff.1 h
    exact ⟨by simp [isLatinLetter, h], by omega⟩
  · rintro ⟨h, hc⟩
    rcases Bool.or_eq_true_iff.1 h with h | h
    · exact h
    · exact absurd hc (hfolded c (List.contains_iff_mem.1 h))

end Classes

/-! ## Numerals -/

/-- The shortest decimal numeral of a number. -/
def numeral (n : Nat) : Text := (Nat.toDigits 10 n).map .char

/-- A numeral does not begin with a zero, unless it is the one of zero. -/
def IsShortest (s : Text) : Prop := s = "0" ∨ s.head? ≠ some (.char '0')

section Numeral

variable {c : CodePoint} {s : Text} {n : Nat}

/-- The character of a number below ten is the digit of that value. -/
theorem digit?_digitChar (hn : n < 10) : digit? (.char (Nat.digitChar n)) = some n := by
  have hall : ∀ d : Fin 10, digit? (.char (Nat.digitChar d)) = some d.val := by decide
  exact hall ⟨n, hn⟩

/-- A digit of ASCII is the one of a number below ten. -/
theorem exists_digitChar (h : c.isDigit = true) : ∃ d < 10, c = .char (Nat.digitChar d) := by
  have hall : ∀ d : Fin 10, (CodePoint.char (Nat.digitChar d)).toNat = 0x30 + d := by decide
  obtain ⟨hlow, hhigh⟩ := CodePoint.isDigit_iff.1 h
  have hd : c.toNat - 0x30 < 10 := by omega
  refine ⟨c.toNat - 0x30, hd, ?_⟩
  rw [← CodePoint.toNat_inj, hall ⟨_, hd⟩]
  show c.toNat = 0x30 + (c.toNat - 0x30)
  omega

/-- A digit behind others adds its value to ten times theirs. -/
theorem decimalValue_append_digit {d : Nat} (h : digit? c = some d) (s : Text) :
    decimalValue (s ++ [c]) = 10 * decimalValue s + d := by
  simp [decimalValue, ofDigitValues, h]

/-- The value of the numeral of a number is the number. -/
theorem decimalValue_numeral (n : Nat) : decimalValue (numeral n) = n := by
  induction n using Nat.strongRecOn with
  | ind n ih =>
    unfold numeral
    rw [Nat.toDigits_eq_if (by omega)]
    split
    · rename_i hn
      exact (decimalValue_append_digit (digit?_digitChar hn) []).trans (Nat.zero_add n)
    · rename_i hn
      have hlast : n % 10 < 10 := Nat.mod_lt _ (by omega)
      rw [List.map_append]
      have hvalue := decimalValue_append_digit (digit?_digitChar hlast) (numeral (n / 10))
      rw [ih (n / 10) (by omega)] at hvalue
      exact hvalue.trans (by omega)

/-- A numeral consists of digits of ASCII. -/
theorem isDigit_of_mem_numeral (h : c ∈ numeral n) : c.isDigit = true := by
  obtain ⟨d, hd, rfl⟩ := List.mem_map.1 h
  exact Nat.isDigit_of_mem_toDigits (by omega) (by omega) hd

/-- A numeral is not empty. -/
theorem numeral_ne_nil (n : Nat) : numeral n ≠ [] := by
  simp [numeral, Nat.toDigits_ne_nil]

/-- A numeral has no needless zero in front. -/
theorem isShortest_numeral (n : Nat) : IsShortest (numeral n) := by
  have hdigit : ∀ d : Fin 10, d.val ≠ 0 → Nat.digitChar d ≠ '0' := by decide
  induction n using Nat.strongRecOn with
  | ind n ih =>
    unfold numeral
    rw [Nat.toDigits_eq_if (by omega)]
    split
    · rename_i hn
      by_cases hzero : n = 0
      · subst hzero
        exact .inl rfl
      · exact .inr (by simpa using hdigit ⟨n, hn⟩ hzero)
    · rename_i hn
      -- The first digit is that of a smaller number, which is not zero.
      have hsmaller : n / 10 ≠ 0 := by omega
      obtain hzero | hhead := ih (n / 10) (by omega)
      · have hvalue := decimalValue_numeral (n / 10)
        rw [hzero] at hvalue
        exact absurd hvalue.symm hsmaller
      · refine .inr ?_
        rw [List.map_append, ← numeral, List.head?_append_of_ne_nil _ (numeral_ne_nil _)]
        exact hhead

/-- A text is the numeral of a number if and only if it consists of digits, has the number as its
value and no needless zero in front. -/
theorem eq_numeral_iff : s = numeral n ↔
    s ≠ [] ∧ (∀ c ∈ s, c.isDigit = true) ∧ IsShortest s ∧ decimalValue s = n := by
  constructor
  · rintro rfl
    exact ⟨numeral_ne_nil n, fun c => isDigit_of_mem_numeral, isShortest_numeral n,
      decimalValue_numeral n⟩
  · rintro ⟨hne, hdigits, hshortest, rfl⟩
    induction s using List.reverseRecOn with
    | nil => exact absurd rfl hne
    | append_singleton init c ih =>
      obtain ⟨d, hd, rfl⟩ := exists_digitChar (hdigits c (by simp))
      rw [decimalValue_append_digit (digit?_digitChar hd)]
      by_cases hinit : init = []
      · subst hinit
        have hone : numeral d = [.char (Nat.digitChar d)] := by
          rw [numeral, Nat.toDigits_of_lt_base hd]
          rfl
        exact hone.symm.trans (congrArg numeral (Nat.zero_add d).symm)
      · have hhead : init.head? ≠ some (.char '0') := by
          obtain hzero | hhead := hshortest
          · -- The numeral of zero is one digit.
            have hlength := congrArg List.length hzero
            have hpos := List.length_pos_iff.2 hinit
            rw [List.length_append] at hlength
            have hone : Text.ofString "0" = [.char '0'] := rfl
            rw [hone, List.length_singleton, List.length_singleton] at hlength
            omega
          · rwa [List.head?_append_of_ne_nil _ hinit] at hhead
        have hinitial := ih hinit (fun c hc => hdigits c (List.mem_append_left _ hc)) (.inr hhead)
        have hpos : 0 < decimalValue init := by
          refine Nat.pos_of_ne_zero fun hzero => hhead ?_
          rw [hinitial, hzero]
          rfl
        rw [numeral, ← Nat.toDigits_append_toDigits (by omega) hpos hd, List.map_append, ← numeral,
          ← hinitial, Nat.toDigits_of_lt_base hd]
        rfl

end Numeral

end SenderPolicy
