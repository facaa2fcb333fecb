import SenderPolicy.Numeral.Basic

/-!
# Faults of written patterns

Why a text is not read as a pattern. Most faults are faults of form. The others are found in texts
whose form is right: numbers that are too large, flags that exclude each other, and looks or groups
that go beyond what can be kept.
-/

namespace SenderPolicy

/-- Why a text is not read as a pattern. -/
inductive PatternFault
  /-- The text is not the written form of a pattern. -/
  | malformed
  /-- A number of rounds is too large. -/
  | tooManyRounds
  /-- A number of rounds has too many digits. -/
  | tooManyDigits (count : Nat)
  /-- One flag asks for the classes of ASCII and another one for those of all characters. -/
  | clashingFlags
  /-- A look backwards goes too far. -/
  | farLook
  /-- Groups stand in too many other groups. -/
  | tooDeep
  deriving DecidableEq, Repr

/-- The wording of a fault of a text other than a fault of form. -/
def PatternFault.message? : PatternFault → Option Text
  | malformed => none
  | tooManyRounds => some "the repetition number is too large"
  | tooManyDigits n => some (tooManyDigitsMessage n)
  | clashingFlags => some "ASCII and UNICODE flags are incompatible"
  | farLook => some "invalid SRE code"
  | tooDeep => some "maximum recursion depth exceeded"

/-- Only a fault of form is without a wording of its own. -/
theorem PatternFault.message?_eq_none_iff (f : PatternFault) :
    f.message? = none ↔ f = .malformed := by cases f <;> simp [message?]

end SenderPolicy
