import SenderPolicy.Text.CharacterName.Ancient
import SenderPolicy.Text.CharacterName.EastAsian
import SenderPolicy.Text.CharacterName.Emblem
import SenderPolicy.Text.CharacterName.European
import SenderPolicy.Text.CharacterName.Further
import SenderPolicy.Text.CharacterName.Indic
import SenderPolicy.Text.CharacterName.Mathematical
import SenderPolicy.Text.CharacterName.NearEastern
import SenderPolicy.Text.CharacterName.Pictorial
import SenderPolicy.Text.CharacterName.Syllabic
import SenderPolicy.Text.CharacterName.Symbol
import SenderPolicy.Text.CodeRange
import SenderPolicy.Text.Hexadecimal

/-!
# Names of characters

`characterNamed?` finds the code point that has a name. Most names are listed, and are found in
letters of either case. The syllables of Hangul are named after their sounds, and the ideographs
after their numbers; these names are written in capitals.
-/

namespace SenderPolicy

/-- The names that are listed. -/
def listedNames : List NameRun :=
  europeanNames ++ nearEasternNames ++ indicNames ++ syllabicNames ++ symbolNames ++
    eastAsianNames ++ ancientNames ++ pictorialNames ++ mathematicalNames ++ emblemNames ++
    furtherNames

/-- The code point of a name that is listed. -/
def listedCharacter? (name : Text) : Option CodePoint :=
  let words := NameRun.wordsOf (name.map fun c => c.toUpper.toChar)
  (listedNames.findSome? (NameRun.find? words)).map .ofNat

/-! ## Numbers as names -/

/-- Characters whose names are a stem and the number of the code point. -/
structure NumberedNames where
  /-- The stem. -/
  stem : Text
  /-- The code points. -/
  ranges : List CodeRange

namespace NumberedNames

/-- The unified ideographs. -/
def ideographs : NumberedNames :=
  ⟨"CJK UNIFIED IDEOGRAPH-",
    [⟨0x3400, 0x4DBF⟩, ⟨0x4E00, 0x9FFF⟩, ⟨0x20000, 0x2A6DF⟩, ⟨0x2A700, 0x2B738⟩,
      ⟨0x2B740, 0x2B81D⟩, ⟨0x2B820, 0x2CEA1⟩, ⟨0x2CEB0, 0x2EBE0⟩, ⟨0x30000, 0x3134A⟩]⟩

/-- The other characters with such names. -/
def others : List NumberedNames :=
  [⟨"CJK COMPATIBILITY IDEOGRAPH-", [⟨0xF900, 0xFA6D⟩, ⟨0xFA70, 0xFAD9⟩, ⟨0x2F800, 0x2FA1D⟩]⟩,
    ⟨"KHITAN SMALL SCRIPT CHARACTER-", [⟨0x18B00, 0x18CD5⟩]⟩,
    ⟨"NUSHU CHARACTER-", [⟨0x1B170, 0x1B2FB⟩]⟩]

/-- Whether a code point can be a digit of a number in a name. -/
def isNameDigit (c : CodePoint) : Bool := c.isDigit || c.isBetween 'A' 'F'

/-- The code point of a name, whose number has four or five digits. -/
def find? (name : Text) (ns : NumberedNames) : Option CodePoint :=
  if ns.stem.isPrefixOf name then
    let digits := name.drop ns.stem.length
    let n := hexNumber digits
    if (digits.length = 4 || digits.length = 5) && digits.all isNameDigit &&
        CodeRange.covers ns.ranges n then
      some (.ofNat n)
    else none
  else none

/-- The code point of a name other than that of a unified ideograph. Its number has no more digits
than it needs. -/
def findOther? (name : Text) : Option CodePoint :=
  (others.findSome? (find? name)).filter fun c =>
    0x10000 ≤ c.toNat || (name.reverse.takeWhile isNameDigit).length = 4

end NumberedNames

/-! ## Syllables -/

namespace HangulSyllable

/-- How the names of syllables begin. -/
def stem : Text := "HANGUL SYLLABLE "

/-- The sounds that begin a syllable. -/
def onsets : List Text :=
  ["G", "GG", "N", "D", "DD", "R", "M", "B", "BB", "S", "SS", "", "J", "JJ", "C", "K", "T", "P",
    "H"]

/-- The vowels of a syllable. -/
def vowels : List Text :=
  ["A", "AE", "YA", "YAE", "EO", "E", "YEO", "YE", "O", "WA", "WAE", "OE", "YO", "U", "WEO", "WE",
    "WI", "YU", "EU", "YI", "I"]

/-- The sounds that end a syllable. -/
def codas : List Text :=
  ["", "G", "GG", "GS", "N", "NJ", "NH", "D", "L", "LG", "LM", "LB", "LS", "LT", "LP", "LH", "M",
    "B", "BS", "S", "SS", "NG", "J", "C", "K", "T", "P", "H"]

/-- What follows a sound at the front of a text. -/
def after? (sound s : Text) : Option Text :=
  if sound.isPrefixOf s then some (s.drop sound.length) else none

/-- The code point of the syllable of some sounds. -/
def ofSounds? (s : Text) : Option CodePoint :=
  onsets.zipIdx.findSome? fun (onset, i) => do
    let s ← after? onset s
    vowels.zipIdx.findSome? fun (vowel, j) => do
      let s ← after? vowel s
      let k ← codas.idxOf? s
      pure (.ofNat (0xAC00 + (i * vowels.length + j) * codas.length + k))

/-- The code point of the name of a syllable. -/
def find? (name : Text) : Option CodePoint := (after? stem name).bind ofSounds?

end HangulSyllable

/-- The code point of a name. -/
def characterNamed? (name : Text) : Option CodePoint :=
  HangulSyllable.find? name <|> NumberedNames.ideographs.find? name <|>
    NumberedNames.findOther? (name.map CodePoint.toUpper) <|> listedCharacter? name

end SenderPolicy
