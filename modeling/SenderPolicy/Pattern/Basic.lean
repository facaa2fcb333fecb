import SenderPolicy.Pattern.CharTest

/-!
# Patterns

A pattern describes texts: tests of characters one after another, choices, repetitions, groups that
can be referred to, and conditions on the place where a match stands. This module holds their form
and the widths of the texts that a pattern can match.
-/

namespace SenderPolicy

/-- Conditions on a place in a text. -/
inductive Anchor
  /-- The start of the text. -/
  | textStart
  /-- The start of a line. -/
  | lineStart
  /-- The end of the text. -/
  | textEnd
  /-- The end of the text, or the place before a line feed that ends it. -/
  | lastLineEnd
  /-- The end of a line. -/
  | lineEnd
  /-- An end of a word, or any other place; the empty text has neither. -/
  | wordEnd (asciiOnly complement : Bool)
  deriving DecidableEq, Repr

/-- The numbers of characters that a pattern can match. -/
structure Width where
  /-- The least number. -/
  least : Nat
  /-- The greatest number, if there is one. -/
  most : Option Nat
  deriving DecidableEq, Repr

namespace Width

/-- One number of characters. -/
def exactly (n : Nat) : Width := ⟨n, some n⟩

/-- The width of one pattern after another. -/
def add (v w : Width) : Width := ⟨v.least + w.least, do pure ((← v.most) + (← w.most))⟩

/-- The width of a choice between two patterns. -/
def union (v w : Width) : Width :=
  ⟨min v.least w.least, do pure (max (← v.most) (← w.most))⟩

/-- The width of a number of rounds. Rounds of the empty text, and no rounds at all, are empty. -/
def times (w : Width) (least : Nat) (most : Option Nat) : Width :=
  ⟨w.least * least,
    if w.most = some 0 || most = some 0 then some 0 else do pure ((← w.most) * (← most))⟩

/-- The greatest number of characters that is told from greater ones. -/
def maxCounted : Nat := 0xFFFFFFFE

/-- The greatest number of characters that a look backwards can go over. -/
def maxLook : Nat := 0x7FFFFFFF

/-- Whether there is one number of characters, which is told from greater ones. -/
def isFixed (w : Width) : Bool := w.most = some w.least && w.least ≤ maxCounted

end Width

/-- How a repetition chooses its number of rounds. -/
inductive Greed
  /-- As many rounds as possible first. -/
  | greedy
  /-- As few rounds as possible first. -/
  | modest
  /-- As many rounds as possible, and no other number. -/
  | possessive
  deriving DecidableEq, Repr

/-- A part of a pattern. -/
inductive Part
  /-- A character that passes a test. -/
  | one (test : CharTest)
  /-- A place. -/
  | anchor (place : Anchor)
  /-- The first of several patterns with which everything fits. -/
  | choice (alternatives : List (List Part))
  /-- A pattern in parentheses, whose match is kept. -/
  | group (number : Nat) (parts : List Part)
  /-- A pattern in parentheses with flags of its own. -/
  | scope (parts : List Part)
  /-- The text that a group has matched, which has a width. -/
  | reference (number : Nat) (rule : LetterRule) (width : Width)
  /-- One pattern if a group has matched, and another one if it has not. -/
  | conditional (number : Nat) (yes no : List Part)
  /-- A number of rounds of a pattern. -/
  | repeated (parts : List Part) (least : Nat) (most : Option Nat) (greed : Greed)
  /-- The place before which, or after which, a pattern matches, or does not match. -/
  | look (backwards complement : Bool) (parts : List Part)
  /-- The first match of a pattern, and no other one. -/
  | atomic (parts : List Part)
  deriving Repr

/-- A pattern: its parts one after another, and the number of its groups. -/
structure Pattern where
  /-- The parts. -/
  parts : List Part
  /-- The number of groups. -/
  groups : Nat
  deriving Repr

namespace Part

mutual

/-- The width of a part. -/
def width : Part → Width
  | one _ => .exactly 1
  | anchor _ | look _ _ _ => .exactly 0
  | choice alternatives => (unionOf alternatives).getD (.exactly 0)
  | group _ parts | scope parts | atomic parts => widthOf parts
  | reference _ _ w => w
  | conditional _ yes no => (widthOf yes).union (widthOf no)
  | repeated parts least most _ => (widthOf parts).times least most

/-- The width of parts one after another. -/
def widthOf : List Part → Width
  | [] => .exactly 0
  | p :: ps => p.width.add (widthOf ps)

/-- The width of a choice, if there is a pattern to choose. -/
def unionOf : List (List Part) → Option Width
  | [] => none
  | ps :: rest =>
    match unionOf rest with
    | none => some (widthOf ps)
    | some w => some ((widthOf ps).union w)

end

mutual

/-- Whether a test holds for a part and all those in it. -/
def isAll (test : Part → Bool) : Part → Bool
  | choice alternatives => test (choice alternatives) && areAllOf test alternatives
  | group number parts => test (group number parts) && areAll test parts
  | scope parts => test (scope parts) && areAll test parts
  | atomic parts => test (atomic parts) && areAll test parts
  | repeated parts least most greed =>
    test (repeated parts least most greed) && areAll test parts
  | conditional number yes no =>
    test (conditional number yes no) && areAll test yes && areAll test no
  | look backwards complement parts =>
    test (look backwards complement parts) && areAll test parts
  | p => test p

/-- Whether a test holds for some parts and all those in them. -/
def areAll (test : Part → Bool) : List Part → Bool
  | [] => true
  | p :: ps => p.isAll test && areAll test ps

/-- Whether a test holds for the parts of some patterns and all those in them. -/
def areAllOf (test : Part → Bool) : List (List Part) → Bool
  | [] => true
  | ps :: rest => areAll test ps && areAllOf test rest

end

/-- Whether a part is no look backwards, or one at texts of one length. -/
def isFixedLook : Part → Bool
  | look true _ parts => (widthOf parts).isFixed
  | _ => true

/-- Whether a part is no look backwards, or one that does not go too far. -/
def isNearLook : Part → Bool
  | look true _ parts => (widthOf parts).least ≤ Width.maxLook
  | _ => true

/-- Whether a part is no repetition. -/
def isNoRepetition : Part → Bool
  | repeated _ _ _ _ => false
  | _ => true

end Part

end SenderPolicy
