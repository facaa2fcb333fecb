import SenderPolicy.Numeral.Binary64

/-!
# Numbers with a fixed number of decimal places

A number is rounded to the given places, a half to the even neighbour. A negative number keeps
its sign, also where it is rounded to zero.
-/

namespace SenderPolicy

/-- The digits of a number, at least `width` of them. -/
def paddedDigits (width n : Nat) : List Char :=
  let ds := Nat.toDigits 10 n
  List.replicate (width - ds.length) '0' ++ ds

/-- The value of the digits of a number is the number. -/
theorem ofDigitChars_paddedDigits (width n : Nat) :
    Nat.ofDigitChars 10 (paddedDigits width n) 0 = n := by
  simp [paddedDigits, Nat.ofDigitChars_append, Nat.ofDigitChars_toDigits]

/-- Numbers have different digits. -/
theorem paddedDigits_inj {width m n : Nat} :
    paddedDigits width m = paddedDigits width n ↔ m = n := by
  refine ⟨fun h => ?_, congrArg (paddedDigits width)⟩
  calc
    m = Nat.ofDigitChars 10 (paddedDigits width m) 0 := (ofDigitChars_paddedDigits width m).symm
    _ = Nat.ofDigitChars 10 (paddedDigits width n) 0 := by rw [h]
    _ = n := ofDigitChars_paddedDigits width n

/-- A number has only decimal digits. -/
theorem isDigit_of_mem_paddedDigits {c : Char} {width n : Nat} (h : c ∈ paddedDigits width n) :
    c.isDigit = true := by
  rcases List.mem_append.1 h with hzero | hdigit
  · rw [List.eq_of_mem_replicate hzero]
    rfl
  · exact Nat.isDigit_of_mem_toDigits (by omega) (by omega) hdigit

/-- The digits of a number are those in front, unless more digits follow. -/
theorem takeWhile_paddedDigits_append (width n : Nat) {s : List Char}
    (hs : s.takeWhile Char.isDigit = []) :
    (paddedDigits width n ++ s).takeWhile Char.isDigit = paddedDigits width n := by
  rw [List.takeWhile_append_of_pos fun c => isDigit_of_mem_paddedDigits, hs, List.append_nil]

/-- A number can be told from what follows its digits, unless that begins with a digit. -/
theorem paddedDigits_append_inj {width m n : Nat} {s t : List Char}
    (hs : s.takeWhile Char.isDigit = []) (ht : t.takeWhile Char.isDigit = []) :
    paddedDigits width m ++ s = paddedDigits width n ++ t ↔ m = n ∧ s = t := by
  constructor
  · intro h
    have hdigits : paddedDigits width m = paddedDigits width n := by
      rw [← takeWhile_paddedDigits_append width m hs, h, takeWhile_paddedDigits_append width n ht]
    rw [hdigits] at h
    exact ⟨paddedDigits_inj.1 hdigits, List.append_cancel_left h⟩
  · rintro ⟨rfl, rfl⟩
    rfl

/-- A number can be told from what follows a character behind it that is no digit. -/
theorem paddedDigits_append_cons_inj {c : Char} (hc : c.isDigit = false) {width m n : Nat}
    {s t : List Char} :
    paddedDigits width m ++ c :: s = paddedDigits width n ++ c :: t ↔ m = n ∧ s = t := by
  rw [paddedDigits_append_inj (by simp [hc]) (by simp [hc]), List.cons.injEq]
  simp

/-- The size of a number with `places` decimal places, behind a minus sign if it is negative. -/
def fixedPlaces (places : Nat) (negative : Bool) (x : Rat) : String :=
  let scale := Nat.pow 10 places
  let n := divNearest (x.num.natAbs * scale) x.den
  let whole := Nat.toDigits 10 (n / scale)
  let fraction := if places = 0 then [] else '.' :: paddedDigits places (n % scale)
  String.ofList ((if negative then ['-'] else []) ++ whole ++ fraction)

/-- A number with `places` decimal places. -/
def renderFixed (places : Nat) (x : Rat) : String := fixedPlaces places (x < 0) x

/-- A floating-point value with `places` decimal places. A zero keeps its sign, too. -/
def Binary64.renderFixed (places : Nat) : Binary64 → String
  | .finite negative s e => fixedPlaces places negative (signedValue false s e)
  | .infinite negative => if negative then "-inf" else "inf"
  | .nan => "nan"

end SenderPolicy
