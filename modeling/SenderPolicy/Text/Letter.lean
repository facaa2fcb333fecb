import SenderPolicy.Text.Basic

/-!
# Letters without regard to case

The letters from A to Z in either case, together with the four letters outside ASCII that one of
the two case mappings takes into that range. `Text.capitals` writes a word in capitals, as far as
they are letters of ASCII; words that are compared with words of ASCII need no more.
-/

namespace SenderPolicy

/-- The letters outside ASCII that count as Latin ones: the capital I with a dot, the small i
without one, the long s and the sign for kelvin. -/
def foldedLetters : List CodePoint := ['\u0130', '\u0131', '\u017f', '\u212a']

/-- A Latin letter without regard to case. -/
def isLatinLetter (c : CodePoint) : Bool := c.isAlpha || foldedLetters.contains c

/-- A Latin letter without regard to case, or a digit of ASCII. -/
def isLatinAlnum (c : CodePoint) : Bool := isLatinLetter c || c.isDigit

/-- The letters outside ASCII whose capitals are letters of ASCII. -/
def asciiCapitals : List (CodePoint × Text) :=
  [('\u00df', "SS"), ('\u0131', "I"), ('\u017f', "S"), ('\ufb00', "FF"), ('\ufb01', "FI"),
   ('\ufb02', "FL"), ('\ufb03', "FFI"), ('\ufb04', "FFL"), ('\ufb05', "ST"), ('\ufb06', "ST")]

/-- The capitals of a character; a character without capitals in ASCII is kept. -/
def capitalsOf (c : CodePoint) : Text :=
  match asciiCapitals.lookup c with
  | some s => s
  | none => [c.toUpper]

/-- A text in capitals. -/
def Text.capitals (s : Text) : Text := s.flatMap capitalsOf

end SenderPolicy
