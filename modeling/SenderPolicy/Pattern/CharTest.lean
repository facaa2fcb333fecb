import SenderPolicy.Text.Alphanumeric
import SenderPolicy.Text.CaseVariant
import SenderPolicy.Text.DecimalDigit

/-!
# Tests of one character

The smallest parts of a pattern ask whether the next code point is a given one, is any other, or
belongs to a set. Where case is disregarded, a test compares small letters: a set is folded if one
of its members has a case, and a folded set is asked for the small letter of a code point in place
of the code point. The members beyond U+FFFF of a folded set are kept as they are written, so a
capital letter there stands for nothing unless a range holds it.
-/

namespace SenderPolicy

/-- Classes of characters that have a name. -/
inductive CharClass
  /-- Decimal digits. -/
  | digit
  /-- Blank characters. -/
  | blank
  /-- Characters of words. -/
  | word
  deriving DecidableEq, Repr

/-- Whether a class covers a code point, among those of ASCII only or among all. -/
def CharClass.covers (asciiOnly : Bool) (k : CharClass) (c : CodePoint) : Bool :=
  (!asciiOnly || c.toNat < 0x80) &&
    match k with
    | .digit => isDecimalDigit c
    | .blank => if asciiOnly then isBlank c && !isSeparatorControl c else isBlank c
    | .word => isWordChar c

/-- How letters are compared. -/
inductive LetterRule
  /-- As they stand. -/
  | exact
  /-- Without regard to the case of letters of ASCII. -/
  | asciiVariants
  /-- Without regard to case. -/
  | allVariants
  deriving DecidableEq, Repr

namespace LetterRule

/-- The small letter of a code point. -/
def small : LetterRule → CodePoint → CodePoint
  | .exact => id
  | .asciiVariants => CodePoint.toLower
  | .allVariants => smallLetter

/-- Whether a code point has a case that the rule disregards. -/
def isCased : LetterRule → CodePoint → Bool
  | .exact, _ => false
  | .asciiVariants, c => c.isAlpha
  | .allVariants, c => hasCase c

/-- The code points that a small letter stands for. -/
def variants : LetterRule → CodePoint → List CodePoint
  | .exact, c => [c]
  | .asciiVariants, c => [c, c.toUpper]
  | .allVariants, c => SenderPolicy.variants c

/-- Whether two code points are compared as equal. -/
def equates (r : LetterRule) (c d : CodePoint) : Bool :=
  if r.isCased c then (r.variants (r.small c)).contains d else c = d

end LetterRule

/-- A member of a set. -/
inductive SetItem
  /-- A code point. -/
  | single (c : CodePoint)
  /-- The code points from one to another one. -/
  | range (first last : CodePoint)
  /-- The code points of a class, or all others. -/
  | named (k : CharClass) (asciiOnly complement : Bool)
  deriving DecidableEq, Repr

/-- The last code point of the first plane. Members of sets beyond it are not folded. -/
def lastOfPlane : CodePoint := .ofNat 0xFFFF

namespace SetItem

/-- Whether a member covers a code point as it stands. -/
def covers (c : CodePoint) : SetItem → Bool
  | single d => c = d
  | range first last => c.isBetween first last
  | named k asciiOnly complement => k.covers asciiOnly c != complement

/-- Whether a member of a folded set covers a small letter. -/
def coversSmall (r : LetterRule) (c : CodePoint) : SetItem → Bool
  | single d => if d.toNat ≤ lastOfPlane.toNat then (r.variants c).contains d else c = d
  | range first last =>
    (r.variants c).any (fun d => d.isBetween first last && d.toNat ≤ lastOfPlane.toNat) ||
      (lastOfPlane.toNat < last.toNat &&
        (c.isBetween first last || (capitalLetter c).isBetween first last))
  | named k asciiOnly complement => k.covers asciiOnly c != complement

/-- Whether a set with this member is folded. -/
def folds (r : LetterRule) : SetItem → Bool
  | single d => lastOfPlane.toNat < d.toNat || r.isCased d
  | range first last =>
    lastOfPlane.toNat < last.toNat ||
      (List.range' first.toNat (last.toNat + 1 - first.toNat)).any fun n => r.isCased (.ofNat n)
  | named _ _ _ => false

end SetItem

/-- A set of code points. -/
structure CharSet where
  /-- The members of the set. -/
  items : List SetItem
  /-- Whether the set holds the code points that no member covers. -/
  complement : Bool
  /-- How letters are compared. -/
  rule : LetterRule
  /-- Whether the set is asked for small letters. -/
  folded : Bool
  deriving DecidableEq, Repr

namespace CharSet

/-- The set of some members. -/
def ofItems (r : LetterRule) (complement : Bool) (items : List SetItem) : CharSet :=
  ⟨items, complement, r, r ≠ .exact && items.any (SetItem.folds r)⟩

/-- Whether a set holds a code point. -/
def holds (s : CharSet) (c : CodePoint) : Bool :=
  let covered :=
    if s.folded then s.items.any (SetItem.coversSmall s.rule (s.rule.small c))
    else s.items.any (SetItem.covers c)
  covered != s.complement

end CharSet

/-- A test of one code point. -/
inductive CharTest
  /-- The code point is a given one, or is another one. -/
  | given (r : LetterRule) (c : CodePoint) (complement : Bool)
  /-- Any code point, a line feed only if it is admitted. -/
  | any (withLineFeed : Bool)
  /-- The code point is of a set. -/
  | inSet (s : CharSet)
  deriving DecidableEq, Repr

namespace CharTest

/-- Whether a code point passes a test. -/
def holds : CharTest → CodePoint → Bool
  | given r c complement, d => r.equates c d != complement
  | any withLineFeed, d => withLineFeed || d ≠ '\n'
  | inSet s, d => s.holds d

/-- Whether a test is made by asking a set for the small letter of a code point. -/
def isFolded : CharTest → Bool
  | given r c _ => r = .allVariants && hasCase c && (smallVariants (smallLetter c)).length ≠ 1
  | any _ => false
  | inSet s => s.folded

/-- The code point that alone passes a test, if case plays no part in it. -/
def literal? : CharTest → Option CodePoint
  | given r c false => if r.isCased c then none else some c
  | _ => none

/-- Whether a test that is no literal asks a set for a code point as it stands. -/
def isPlainSet : CharTest → Bool
  | inSet s => !s.folded
  | _ => false

/-- A literal test is passed by its code point alone. -/
theorem holds_of_literal? {t : CharTest} {c d : CodePoint} (h : t.literal? = some c) :
    t.holds d = decide (c = d) := by
  unfold literal? at h
  split at h
  · split at h
    · cases h
    · rename_i r e hc
      obtain rfl := Option.some.inj h
      simp [holds, LetterRule.equates, hc]
  · cases h

end CharTest

end SenderPolicy
