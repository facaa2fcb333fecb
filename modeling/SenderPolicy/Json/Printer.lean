import SenderPolicy.Json.Basic
import SenderPolicy.Numeral.Shortest
import SenderPolicy.Text.Half
import SenderPolicy.Text.Quoted

/-!
# Writing JSON

Values are written in printable ASCII. Other characters are escaped, those beyond U+FFFF as a
surrogate pair, and half of a pair on its own as that half. `compact` writes a value on one line
without blanks, `indented` with one item or field on each line.
-/

namespace SenderPolicy.Json

/-- The escape of one code unit. -/
def unitEscape (n : Nat) : Text := '\\' :: 'u' :: hexDigits 4 n

/-- A character as it stands in a written string. -/
def writeChar (c : CodePoint) : Text :=
  if c = '"' || c = '\\' then ['\\', c]
  else if c = '\n' then ['\\', 'n']
  else if c = '\r' then ['\\', 'r']
  else if c = '\t' then ['\\', 't']
  else if c = '\x08' then ['\\', 'b']
  else if c = '\x0c' then ['\\', 'f']
  else if 0x20 ≤ c.toNat && c.toNat < 0x7F then [c]
  else if c.toNat < 0x10000 then unitEscape c.toNat
  else unitEscape (highHalf c.toNat) ++ unitEscape (lowHalf c.toNat)

/-- A written string. -/
def writeString (s : Text) : Text := "\"" ++ s.flatMap writeChar ++ "\""

/-- A written floating-point number. -/
def writeReal : Binary64 → Text
  | .nan => "NaN"
  | .infinite negative => if negative then "-Infinity" else "Infinity"
  | x => x.render

/-- How the parts of lists and objects are set apart. -/
structure Layout where
  /-- What stands before an item at a depth of nesting. -/
  before : Nat → Text
  /-- What stands before the closing bracket at a depth of nesting. -/
  closing : Nat → Text
  /-- What stands between a name and its value. -/
  colon : Text

/-- Items between brackets, each already written. -/
def bracketed (l : Layout) (depth : Nat) (opening closing : CodePoint) (items : List Text) : Text :=
  if items.isEmpty then [opening, closing]
  else
    let body := items.map (l.before (depth + 1) ++ ·)
    opening :: Text.joined "," body ++ l.closing depth ++ [closing]

mutual

/-- A value at a depth of nesting. -/
def write (l : Layout) (depth : Nat) : Json → Text
  | .null => "null"
  | .bool b => if b then "true" else "false"
  | .integer n => toString n
  | .real x => writeReal x
  | .string s => writeString s
  | .array items => bracketed l depth '[' ']' (writeItems l depth items)
  | .object fields => bracketed l depth '\x7b' '\x7d' (writeFields l depth fields)

/-- The items of a list. -/
def writeItems (l : Layout) (depth : Nat) : List Json → List Text
  | [] => []
  | v :: vs => write l (depth + 1) v :: writeItems l depth vs

/-- The fields of an object. -/
def writeFields (l : Layout) (depth : Nat) : List (Text × Json) → List Text
  | [] => []
  | (name, v) :: fs =>
    (writeString name ++ l.colon ++ write l (depth + 1) v) :: writeFields l depth fs

end

/-- All on one line and without blanks. -/
def onOneLine : Layout := ⟨fun _ => [], fun _ => [], [':']⟩

/-- Every item on a line of its own, two blanks further in than its bracket. -/
def onLines : Layout :=
  let line (depth : Nat) : Text := '\n' :: List.replicate (2 * depth) ' '
  ⟨line, line, [':', ' ']⟩

/-- A value on one line. -/
def compact (v : Json) : Text := (write onOneLine 0 v)

/-- A value with one item or field on each line. -/
def indented (v : Json) : Text := (write onLines 0 v)

end SenderPolicy.Json
