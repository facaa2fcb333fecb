import SenderPolicy.Text.Blank

/-!
# Text as a sequence of code points

Names, records and terms are sequences of code points, so that lengths and cuts count code points
and every rule on them is a rule on lists. A `String` may stand where a text is asked for. This
module holds the operations that several parts of the library share: trimming, splitting into
words, and cutting at a character.
-/

namespace SenderPolicy

/-- A text under analysis: a name, a record, a term. -/
abbrev Text := List CodePoint

/-- The text of the characters of a `String`. -/
def Text.ofString (s : String) : Text := s.toList.map .char

instance : Coe String Text := ⟨Text.ofString⟩

namespace Text

/-- Different `String`s have different texts. -/
theorem ofString_inj {s t : String} : ofString s = ofString t ↔ s = t := by
  refine ⟨fun h => String.toList_inj.1 ?_, congrArg ofString⟩
  exact (List.map_inj_right fun _ _ => CodePoint.char.inj).1 h

/-- The characters of a text, with U+FFFD in place of halves of surrogate pairs. -/
def toString (s : Text) : String := String.ofList (s.map CodePoint.toChar)

/-- Drops the characters of a class from the end of a text. -/
def dropEndWhile (p : CodePoint → Bool) (s : Text) : Text := (s.reverse.dropWhile p).reverse

/-- Drops the characters of a class from both ends of a text. -/
def trimWhile (p : CodePoint → Bool) (s : Text) : Text := dropEndWhile p (s.dropWhile p)

/-- Drops the blanks at both ends of a text. -/
def trim (s : Text) : Text := trimWhile isBlank s

/-- The longest runs of characters that are not blank, in order. -/
def words (s : Text) : List Text := (s.splitOnP isBlank).filter (!·.isEmpty)

/-- Drops one given character from the end of a text, if it stands there. -/
def dropFinal (c : CodePoint) (s : Text) : Text := if s.getLast? = some c then s.dropLast else s

/-- The text before the first character of a class, and the rest from that character on. -/
def cut (p : CodePoint → Bool) (s : Text) : Text × Text := (s.takeWhile (!p ·), s.dropWhile (!p ·))

/-- The text before the first place of a code point, which is all of it if there is none. -/
def before (c : CodePoint) (s : Text) : Text := s.takeWhile (· ≠ c)

/-- The parts of a text between the places of a code point. -/
def parts (c : CodePoint) (s : Text) : List Text := s.splitOn c

/-- Texts one after another, with a separator between each two. -/
def joined (separator : Text) (texts : List Text) : Text := separator.intercalate texts

/-- The small ASCII letters for the capital ones; every other character is kept. -/
def toLowerAscii (s : Text) : Text := s.map CodePoint.toLower

/-- Whether a text stands at or before another one in a list that is ordered by code points. -/
def isAtMost : Text → Text → Bool
  | [], _ => true
  | _ :: _, [] => false
  | a :: s, b :: t => if a = b then isAtMost s t else a.toNat < b.toNat

/-- No word is empty. -/
theorem ne_nil_of_mem_words {s w : Text} (h : w ∈ words s) : w ≠ [] := by
  have := (List.mem_filter.1 h).2
  simpa using this

end Text

end SenderPolicy
