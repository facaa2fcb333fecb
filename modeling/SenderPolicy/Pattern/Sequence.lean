import SenderPolicy.Pattern.Basic
import SenderPolicy.Pattern.Fault

/-!
# Sequences and alternatives

How parts that have been read one after another make up a pattern. A group that is not kept and has
no flags is no part of its own: its parts stand in its place, unless a repetition takes all of them
together. What all alternatives begin with stands before the choice between them, as far as tests,
places and references go, and a choice between single characters is a set.
-/

namespace SenderPolicy.Pattern

/-- A piece of a sequence that is being read. -/
inductive Piece
  /-- A part. -/
  | part (p : Part)
  /-- The parts of a group that is not kept and has no flags. -/
  | loose (parts : List Part)

/-- The parts of a piece. -/
def Piece.parts : Piece → List Part
  | part p => [p]
  | loose parts => parts

/-- Whether a piece can be repeated: places and repetitions cannot. -/
def Piece.isRepeatable : Piece → Bool
  | part (.anchor _) | part (.repeated _ _ _ _) => false
  | _ => true

/-- The parts of a sequence whose pieces have been read, the latest first. -/
def partsOf (pieces : List Piece) : List Part := pieces.reverse.flatMap Piece.parts

/-- Repeats the last of the pieces that have been read. -/
def repeatLast (least : Nat) (most : Option Nat) (greed : Greed) :
    List Piece → Except PatternFault (List Piece)
  | [] => .error .malformed
  | p :: ps =>
    if p.isRepeatable && most.all (least ≤ ·) then
      .ok (.part (.repeated p.parts least most greed) :: ps)
    else .error .malformed

/-- Whether two parts are the same test, place or reference. -/
def isSame : Part → Part → Bool
  | .one t, .one u => t = u
  | .anchor a, .anchor b => a = b
  | .reference m r _, .reference n s _ => m = n && r = s
  | _, _ => false

/-- What some parts and others begin with in common, and what is left of each of them. -/
def cutShared : List Part → List (List Part) → List Part × List Part × List (List Part)
  | [], others => ([], [], others)
  | p :: ps, others =>
    if others.all fun qs => qs.head?.any (isSame p) then
      let (shared, first, others) := cutShared ps (others.map (·.drop 1))
      (p :: shared, first, others)
    else ([], p :: ps, others)

/-- The members of the set that a test stands for, if a choice can take them over. -/
def membersOf? : CharTest → Option (List SetItem)
  | .given _ c false => some [.single c]
  | .inSet s => if s.complement then none else some s.items
  | _ => none

/-- The members of the set that a choice stands for, if all of its alternatives are tests. -/
def sharedMembers? : List (List Part) → Option (List SetItem)
  | [] => some []
  | [.one t] :: rest => do pure ((← membersOf? t) ++ (← sharedMembers? rest))
  | _ => none

/-- The parts of a choice between alternatives. -/
def ofAlternatives (r : LetterRule) : List (List Part) → List Part
  | [] => []
  | [parts] => parts
  | first :: others =>
    let (shared, first, others) := cutShared first others
    match sharedMembers? (first :: others) with
    | some items => shared ++ [.one (.inSet (.ofItems r false items.eraseDups))]
    | none => shared ++ [.choice (first :: others)]

end SenderPolicy.Pattern
