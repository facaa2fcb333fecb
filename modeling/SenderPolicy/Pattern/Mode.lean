import SenderPolicy.Pattern.CharTest
import SenderPolicy.Pattern.Fault
import SenderPolicy.Pattern.Sign

/-!
# Modes and flags

Letters that stand for themselves, classes, points, and ends of lines are read in a mode. Flags
change the mode, for a group or for the whole pattern; those for the whole pattern stand at its
start, with nothing before them but comments.
-/

namespace SenderPolicy.Pattern

/-- How a pattern is read. -/
structure Mode where
  /-- Whether case is disregarded. -/
  ignoreCase : Bool := true
  /-- Whether classes and variants are those of ASCII. -/
  asciiOnly : Bool := false
  /-- Whether a point stands for a line feed too. -/
  dotAll : Bool := false
  /-- Whether the start and the end of a line count as those of the text. -/
  multiline : Bool := false
  /-- Whether blanks and comments between the parts of a pattern are passed over. -/
  spaced : Bool := false

namespace Mode

/-- How letters are compared. -/
def rule (m : Mode) : LetterRule :=
  if !m.ignoreCase then .exact else if m.asciiOnly then .asciiVariants else .allVariants

/-- Sets or clears what a flag stands for. -/
def set (on : Bool) (m : Mode) (flag : CodePoint) : Mode :=
  if flag = 'i' then { m with ignoreCase := on }
  else if flag = 'a' then { m with asciiOnly := on }
  else if flag = 'u' then { m with asciiOnly := !on }
  else if flag = 's' then { m with dotAll := on }
  else if flag = 'm' then { m with multiline := on }
  else if flag = 'x' then { m with spaced := on }
  else m

end Mode

/-- The flags of a group or of the whole pattern. -/
structure Flags where
  /-- The flags that are set. -/
  on : Text
  /-- The flags that are cleared. -/
  off : Text
  /-- Whether they hold for the whole pattern. -/
  isGlobal : Bool

/-- The mode with flags set and cleared. -/
def Flags.apply (f : Flags) (m : Mode) : Mode :=
  f.off.foldl (Mode.set false) (f.on.foldl (Mode.set true) m)

/-- Whether a letter is a flag. -/
def isFlag (c : CodePoint) : Bool := ("aiLmstux" : Text).contains c

/-- Whether flags ask for the classes of ASCII and for those of all characters. -/
def areClashing (flags : Text) : Bool := flags.contains 'a' && flags.contains 'u'

/-- The flags at the front of some signs, which follow an opening parenthesis and a question mark.
The flag `L` is for other texts, `t` only for a whole pattern; `a` and `u` cannot be cleared. -/
def cutFlags? (signs : List Sign) : Option (Flags × List Sign) :=
  let (on, rest) := Sign.cutPlain isFlag signs
  if on.contains 'L' || areClashing on then none
  else match rest with
    | .plain ')' :: rest => if on.isEmpty then none else some (⟨on, [], true⟩, rest)
    | .plain ':' :: rest =>
      if on.isEmpty || on.contains 't' then none else some (⟨on, [], false⟩, rest)
    | .plain '-' :: rest =>
      let (off, rest) := Sign.cutPlain isFlag rest
      let isFixed (c : CodePoint) : Bool := on.contains c || ("aLtu" : Text).contains c
      if off.isEmpty || on.contains 't' || off.any isFixed then none
      else match rest with
        | .plain ':' :: rest => some (⟨on, off, false⟩, rest)
        | _ => none
    | _ => none

/-- The blanks that a spaced pattern may hold between its parts. -/
def isSpacing (c : CodePoint) : Bool := (" \t\n\r\x0b\x0c" : Text).contains c

/-- The signs after a blank or a comment at the front of a spaced pattern. -/
def dropSpacing? : List Sign → Option (List Sign)
  | .plain '#' :: rest => some (Sign.dropLine rest)
  | .plain c :: rest => if isSpacing c then some rest else none
  | _ => none

/-- The flags for the whole pattern at its start, the mode that they choose, and the signs after
them. Each step takes a sign. -/
def cutModes : (fuel : Nat) → Text → Mode → List Sign → Text × Mode × List Sign
  | 0, flags, m, signs => (flags, m, signs)
  | fuel + 1, flags, m, signs =>
    match signs with
    | .plain '(' :: .plain '?' :: .plain '#' :: rest =>
      match Sign.dropPast? ')' rest with
      | some rest => cutModes fuel flags m rest
      | none => (flags, m, signs)
    | .plain '(' :: .plain '?' :: rest =>
      match cutFlags? rest with
      | some (f, rest) =>
        if f.isGlobal then cutModes fuel (flags ++ f.on) (f.apply m) rest else (flags, m, signs)
      | none => (flags, m, signs)
    | _ =>
      match if m.spaced then dropSpacing? signs else none with
      | some rest => cutModes fuel flags m rest
      | none => (flags, m, signs)

end SenderPolicy.Pattern
