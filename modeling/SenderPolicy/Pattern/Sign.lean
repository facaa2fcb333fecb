import SenderPolicy.Text.Basic

/-!
# Signs of written patterns

A pattern is written in signs: a character, or a character with a backslash before it. A backslash
at the end of the text is no sign, and a pattern in which it is reached is malformed.
-/

namespace SenderPolicy

/-- A sign of a written pattern. -/
inductive Sign
  /-- A character. -/
  | plain (c : CodePoint)
  /-- A character with a backslash before it. -/
  | escaped (c : CodePoint)
  /-- A backslash at the end of the text. -/
  | broken
  deriving DecidableEq, Repr

namespace Sign

/-- The signs of a text. -/
def ofText : Text → List Sign
  | [] => []
  | ['\\'] => [broken]
  | '\\' :: c :: rest => escaped c :: ofText rest
  | c :: rest => plain c :: ofText rest

/-- The characters of a class at the front of some signs, and the signs after them. -/
def cutPlain (p : CodePoint → Bool) : List Sign → Text × List Sign
  | plain c :: rest =>
    if p c then
      let (s, rest) := cutPlain p rest
      (c :: s, rest)
    else ([], plain c :: rest)
  | rest => ([], rest)

/-- The characters before the first place of a character, and the signs after it. -/
def cutUntil? (closing : CodePoint) (signs : List Sign) : Option (Text × List Sign) :=
  match cutPlain (· ≠ closing) signs with
  | (s, plain _ :: rest) => some (s, rest)
  | _ => none

/-- The signs after the first place of a character. -/
def dropPast? (c : CodePoint) : List Sign → Option (List Sign)
  | [] | broken :: _ => none
  | plain d :: rest => if d = c then some rest else dropPast? c rest
  | escaped _ :: rest => dropPast? c rest

/-- The signs after the first line feed. A broken sign is kept. -/
def dropLine : List Sign → List Sign
  | [] => []
  | broken :: rest => broken :: rest
  | plain c :: rest => if c = '\n' then rest else dropLine rest
  | escaped _ :: rest => dropLine rest

end Sign

end SenderPolicy
