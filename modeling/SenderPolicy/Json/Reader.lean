import SenderPolicy.Json.Basic
import SenderPolicy.Numeral.Real
import SenderPolicy.Text.Half

/-!
# Reading JSON

`Json.read` reads one value with blanks around it. The grammar is that of the format, with two
additions: the words `NaN`, `Infinity` and `-Infinity` are numbers, and half of a surrogate pair
may stand on its own. An integer of more than `maxDigits` digits is not read, and reading stops at
a list or an object that stands too deep in others.
-/

namespace SenderPolicy.Json

/-- The blanks of the format. -/
def isSpace (c : CodePoint) : Bool := c = ' ' || c = '\t' || c = '\n' || c = '\r'

/-- Drops the blanks in front of a text. -/
def skip (s : Text) : Text := s.dropWhile isSpace

/-- The code unit of four hexadecimal digits. -/
def unit? (a b c d : CodePoint) : Option Nat := do
  let a ← hexValue? a
  let b ← hexValue? b
  let c ← hexValue? c
  let d ← hexValue? d
  pure (((a * 16 + b) * 16 + c) * 16 + d)

/-- The character that a short escape stands for. -/
def shortEscape? (c : CodePoint) : Option CodePoint :=
  if c = '"' || c = '\\' || c = '/' then some c
  else if c = 'b' then some '\x08'
  else if c = 'f' then some '\x0c'
  else if c = 'n' then some '\n'
  else if c = 'r' then some '\r'
  else if c = 't' then some '\t'
  else none

/-- Reads the rest of a string up to its closing quote, as code points and as halves of surrogate
pairs. -/
def readUnits : Text → Option (List Nat × Text)
  | [] => none
  | '"' :: rest => some ([], rest)
  | '\\' :: 'u' :: a :: b :: c :: d :: rest => do
    let n ← unit? a b c d
    let (ns, rest) ← readUnits rest
    pure (n :: ns, rest)
  | '\\' :: e :: rest => do
    let c ← shortEscape? e
    let (ns, rest) ← readUnits rest
    pure (c.toNat :: ns, rest)
  | c :: rest =>
    if c.toNat < 0x20 then none
    else do
      let (ns, rest) ← readUnits rest
      pure (c.toNat :: ns, rest)

/-- Reads the rest of a string up to its closing quote. -/
def readString? (s : Text) : Option (Text × Text) :=
  (readUnits s).map fun (ns, rest) => (joinHalves ns, rest)

/-- The whole digits at the front of a text: a zero alone, or digits of which the first is not
zero. -/
def cutWhole? : Text → Option (Text × Text)
  | '0' :: rest => some (['0'], rest)
  | s =>
    let ds := s.takeWhile CodePoint.isDigit
    if ds.isEmpty then none else some (ds, s.dropWhile CodePoint.isDigit)

/-- The fraction at the front of a text, if a digit follows the point. -/
def cutPoint : Text → Text × Text
  | '.' :: rest =>
    let ds := rest.takeWhile CodePoint.isDigit
    if ds.isEmpty then ([], '.' :: rest) else ('.' :: ds, rest.dropWhile CodePoint.isDigit)
  | s => ([], s)

/-- The exponent at the front of a text, if a digit follows the mark and the sign. -/
def cutExponent : Text → Text × Text
  | [] => ([], [])
  | c :: rest =>
    let sign := match rest with
      | '+' :: _ => ['+']
      | '-' :: _ => ['-']
      | _ => []
    let body := rest.drop sign.length
    let ds := body.takeWhile CodePoint.isDigit
    if (c = 'e' || c = 'E') && !ds.isEmpty then
      (c :: sign ++ ds, body.dropWhile CodePoint.isDigit)
    else ([], c :: rest)

/-- Reads the digits of a number whose sign has been read. -/
def readNumber? (negative : Bool) (s : Text) : Option (Json × Text) := do
  let (whole, rest) ← cutWhole? s
  let (fraction, rest) := cutPoint rest
  let (exponent, rest) := cutExponent rest
  if fraction.isEmpty && exponent.isEmpty then
    if maxDigits < whole.length then none
    else
      let n : Int := decimalValue whole
      pure (.integer (if negative then -n else n), rest)
  else
    let value ← readMagnitude? negative (whole ++ fraction ++ exponent)
    pure (.real value, rest)

/-- The words that are values, each with its value. -/
def wordValues : List (Text × Json) :=
  [("null", .null), ("true", .bool true), ("false", .bool false),
   ("NaN", .real .nan), ("Infinity", .real (.infinite false)),
   ("-Infinity", .real (.infinite true))]

/-- Reads a value that is a word or a number. -/
def readAtom? (s : Text) : Option (Json × Text) :=
  match wordValues.find? (·.1.isPrefixOf s) with
  | some (word, value) => some (value, s.drop word.length)
  | none =>
    match s with
    | '-' :: rest => readNumber? true rest
    | _ => readNumber? false s

/-- Why a text is not read as a value. -/
inductive Fault
  /-- The text does not follow the grammar. -/
  | malformed
  /-- Lists and objects stand in each other too deep. -/
  | tooDeep
  deriving DecidableEq, Repr

/-- What has been read, or the fault of a text that does not follow the grammar. -/
def orMalformed {α : Type} : Option α → Except Fault α
  | some a => .ok a
  | none => .error .malformed

mutual

/-- Reads one value without blanks in front, in which lists and objects may stand in each other up
to a depth. Each two steps take a character, so twice the length of the text bounds the steps. -/
def readValue : (depth fuel : Nat) → Text → Except Fault (Json × Text)
  | _, 0, _ => .error .malformed
  | _, _ + 1, '"' :: rest =>
    orMalformed ((readString? rest).map fun (t, rest) => (.string t, rest))
  | 0, _ + 1, '[' :: _ => .error .tooDeep
  | 0, _ + 1, '\x7b' :: _ => .error .tooDeep
  | depth + 1, fuel + 1, '[' :: rest =>
    match skip rest with
    | ']' :: rest => .ok (.array [], rest)
    | rest => (readItems depth fuel rest).map fun (vs, rest) => (.array vs, rest)
  | depth + 1, fuel + 1, '\x7b' :: rest =>
    match skip rest with
    | '\x7d' :: rest => .ok (.object [], rest)
    | rest => (readFields depth fuel rest).map fun (fs, rest) => (.object fs, rest)
  | _, _ + 1, s => orMalformed (readAtom? s)

/-- Reads the values of a list and its closing bracket. -/
def readItems : (depth fuel : Nat) → Text → Except Fault (List Json × Text)
  | _, 0, _ => .error .malformed
  | depth, fuel + 1, s => do
    let (v, rest) ← readValue depth fuel s
    match skip rest with
    | ']' :: rest => pure ([v], rest)
    | ',' :: rest =>
      let (vs, rest) ← readItems depth fuel (skip rest)
      pure (v :: vs, rest)
    | _ => .error .malformed

/-- Reads the fields of an object and its closing brace. -/
def readFields : (depth fuel : Nat) → Text → Except Fault (List (Text × Json) × Text)
  | _, 0, _ => .error .malformed
  | depth, fuel + 1, '"' :: s => do
    let (name, rest) ← orMalformed (readString? s)
    match skip rest with
    | ':' :: rest =>
      let (v, rest) ← readValue depth fuel (skip rest)
      match skip rest with
      | '\x7d' :: rest => pure ([(name, v)], rest)
      | ',' :: rest =>
        let (fs, rest) ← readFields depth fuel (skip rest)
        pure ((name, v) :: fs, rest)
      | _ => .error .malformed
    | _ => .error .malformed
  | _, _ + 1, _ => .error .malformed

end

/-- The greatest depth of lists and objects in each other. -/
def maxDepth : Nat := 974

/-- Reads a text that holds one value. -/
def read (s : Text) : Except Fault Json := do
  let (v, rest) ← readValue maxDepth (2 * (s.length + 1)) (skip s)
  if (skip rest).isEmpty then pure v else .error .malformed

/-- Reads a text that holds one value. -/
def read? (s : Text) : Option Json := (read s).toOption

end SenderPolicy.Json
