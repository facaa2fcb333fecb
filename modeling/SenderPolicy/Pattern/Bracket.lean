import SenderPolicy.Pattern.Escape

/-!
# Sets in brackets

A set is written as its members between brackets: characters, ranges of them, and classes. A
closing bracket as the first member is a character. Members that are written twice count once, and
a set of one character is the test for that character.
-/

namespace SenderPolicy.Pattern

/-- A member of a set as it is written. -/
inductive Member
  /-- A character, which may begin or end a range. -/
  | char (c : CodePoint)
  /-- A class of characters, or all others. -/
  | named (k : CharClass) (complement : Bool)

/-- The part of a set that a member on its own stands for. -/
def Member.item (m : Mode) : Member → SetItem
  | .char c => .single c
  | .named k complement => .named k m.asciiOnly complement

/-- The range between two members. -/
def Member.range? : Member → Member → Option SetItem
  | .char first, .char last => if first.toNat ≤ last.toNat then some (.range first last) else none
  | _, _ => none

/-- The member of an escape in a set: `e` is the character after the backslash. -/
def memberEscape? (e : CodePoint) (rest : List Sign) : Option (Member × List Sign) :=
  match classOf? e with
  | some (k, complement) => some (.named k complement, rest)
  | none =>
    if e = 'b' then some (.char '\x08', rest)
    else if isOctal e then
      let (more, _) := Sign.cutPlain isOctal (rest.take 2)
      let n := octalValue (e :: more)
      if n ≤ maxOctal then some (.char (.ofNat n), rest.drop more.length) else none
    else (cutChar? e rest).map fun (c, rest) => (.char c, rest)

/-- Reads a member of a set. -/
def readMember? : List Sign → Option (Member × List Sign)
  | [] | .broken :: _ => none
  | .escaped e :: rest => memberEscape? e rest
  | .plain c :: rest => some (.char c, rest)

/-- Reads the members of a set and its closing bracket, after members that have been read, the
latest first. -/
def readMembers? (m : Mode) : (fuel : Nat) → List SetItem → List Sign →
    Option (List SetItem × List Sign)
  | 0, _, _ => none
  | fuel + 1, items, signs =>
    if signs.head? = some (.plain ']') && !items.isEmpty then some (items.reverse, signs.drop 1)
    else do
      let (first, rest) ← readMember? signs
      match rest with
      | .plain '-' :: .plain ']' :: rest =>
        pure ((.single '-' :: first.item m :: items).reverse, rest)
      | .plain '-' :: rest =>
        let (last, rest) ← readMember? rest
        let item ← first.range? last
        readMembers? m fuel (item :: items) rest
      | _ => readMembers? m fuel (first.item m :: items) rest

/-- The test of some members. -/
def setTest (m : Mode) (complement : Bool) (items : List SetItem) : CharTest :=
  match items.eraseDups with
  | [.single c] => .given m.rule c complement
  | items => .inSet (.ofItems m.rule complement items)

/-- Reads a set after its opening bracket. -/
def readSet? (m : Mode) (signs : List Sign) : Option (Part × List Sign) :=
  let complement : Bool := signs.head? = some (.plain '^')
  let signs := if complement then signs.drop 1 else signs
  (readMembers? m (signs.length + 1) [] signs).map fun (items, rest) =>
    (.one (setTest m complement items), rest)

end SenderPolicy.Pattern
