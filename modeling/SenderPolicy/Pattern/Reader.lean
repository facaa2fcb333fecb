import SenderPolicy.Numeral.Integer
import SenderPolicy.Pattern.Bracket
import SenderPolicy.Pattern.Sequence
import SenderPolicy.Text.Identifier

/-!
# Reading patterns

The written form of a pattern. `Pattern.read` refuses a text that is none: a repetition of nothing,
parentheses or brackets without a partner, a range from a greater character to a smaller one, an
unknown escape or extension, a reference to a group that is not closed, a condition on a group that
the pattern does not have, a look backwards at texts of several lengths.

A cursor goes through the signs from left to right. It keeps the number of the next group, the
names of groups, the groups that are closed, and those that conditions ask for. Of several faults
the first one on the way counts; those that concern the pattern as a whole come last.
-/

namespace SenderPolicy.Pattern

/-- What has been read of a pattern, and what is left to read. -/
structure Cursor where
  /-- The signs that are left. -/
  rest : List Sign
  /-- The number of the next group. -/
  next : Nat := 1
  /-- The names of groups. -/
  names : List (Text × Nat) := []
  /-- The groups that are closed, each with its width. -/
  closed : List (Nat × Width) := []
  /-- The number from which on groups stand in the outermost look backwards. -/
  barrier : Option Nat := none
  /-- The groups that conditions ask for. -/
  asked : List Nat := []

/-- What is read, or the fault of a text that is malformed. -/
def orMalformed {α : Type} : Option α → Except PatternFault α
  | some x => .ok x
  | none => .error .malformed

/-! ## References -/

/-- Whether a group stands outside of the outermost look backwards. -/
def Cursor.isOutside (c : Cursor) (number : Nat) : Bool := c.barrier.all (number < ·)

/-- A reference to a group, which must be closed and stand outside of the outermost look
backwards. -/
def Cursor.reference? (m : Mode) (c : Cursor) (number : Nat) : Option Part :=
  if c.isOutside number then
    (c.closed.lookup number).map fun w => .reference number m.rule w
  else none

/-- The number of the group that a condition asks for. A group that has a number may follow later,
but not if the condition stands in a look backwards. -/
def Cursor.askedGroup? (c : Cursor) (group : Text) : Option Nat := do
  let number ←
    if group.isIdentifier then c.names.lookup group
    else match readInteger group with
      | .ok n => if 0 < n then some n.toNat else none
      | .error _ => none
  if c.barrier.isNone || ((c.closed.lookup number).isSome && c.isOutside number) then pure number
  else none

/-! ## Repetitions -/

/-- The greatest number of rounds that can be written. -/
def maxRounds : Nat := 0xFFFFFFFE

/-- The number of rounds that some digits stand for. -/
def roundsOf (digits : Text) : Except PatternFault Nat :=
  if maxDigits < digits.length then .error (.tooManyDigits digits.length)
  else if maxRounds < decimalValue digits then .error .tooManyRounds
  else .ok (decimalValue digits)

/-- The least and the greatest number of rounds that are written as digits, of which either may be
missing. -/
def boundsOf (least most : Text) : Except PatternFault (Nat × Option Nat) := do
  let low ← roundsOf least
  if most.isEmpty then pure (low, none) else pure (low, some (← roundsOf most))

/-- The digits of the numbers of rounds between braces, after the opening one: one number, or two
with a comma between them. -/
def cutBraces? (signs : List Sign) : Option (Text × Text × List Sign) :=
  let (least, rest) := Sign.cutPlain CodePoint.isDigit signs
  let (most, rest) := match rest with
    | .plain ',' :: rest => Sign.cutPlain CodePoint.isDigit rest
    | rest => (least, rest)
  match rest with
  | .plain '\x7d' :: rest =>
    if rest.length + 1 = signs.length then none else some (least, most, rest)
  | _ => none

/-- The numbers of rounds at the front of some signs, if they begin a repetition. -/
def cutRounds : List Sign → Except PatternFault (Option ((Nat × Option Nat) × List Sign))
  | .plain '*' :: rest => .ok (some ((0, none), rest))
  | .plain '+' :: rest => .ok (some ((1, none), rest))
  | .plain '?' :: rest => .ok (some ((0, some 1), rest))
  | .plain '\x7b' :: rest =>
    match cutBraces? rest with
    | none => .ok none
    | some (_, _, .broken :: _) => .error .malformed
    | some (least, most, rest) => do pure (some (← boundsOf least most, rest))
  | _ => .ok none

/-- The greed that a sign after a repetition chooses. -/
def cutGreed : List Sign → Greed × List Sign
  | .plain '?' :: rest => (.modest, rest)
  | .plain '+' :: rest => (.possessive, rest)
  | rest => (.greedy, rest)

/-! ## Groups -/

/-- The heads of groups, as they follow the opening parenthesis. -/
inductive Head
  /-- A group that is kept, with its name. -/
  | kept (name : Option Text)
  /-- A group that is not kept and has no flags. -/
  | loose
  /-- A group that is not kept, read in a mode of its own. -/
  | scope (mode : Mode)
  /-- A group of which only the first match counts. -/
  | atomic
  /-- A look forwards or backwards. -/
  | look (backwards complement : Bool)
  /-- A reference to a group of a name. -/
  | named (name : Text)
  /-- A condition on a group, which is written as its name or its number. -/
  | condition (group : Text)

/-- A name at the front of some signs, up to its closing character. -/
def cutName? (closing : CodePoint) (signs : List Sign) : Option (Text × List Sign) :=
  (Sign.cutUntil? closing signs).filter fun (name, _) => name.isIdentifier

/-- Reads the head of a group. -/
def cutHead? (m : Mode) : List Sign → Option (Head × List Sign)
  | .plain '?' :: .plain 'P' :: .plain '<' :: rest =>
    (cutName? '>' rest).map fun (name, rest) => (.kept name, rest)
  | .plain '?' :: .plain 'P' :: .plain '=' :: rest =>
    (cutName? ')' rest).map fun (name, rest) => (.named name, rest)
  | .plain '?' :: .plain ':' :: rest => some (.loose, rest)
  | .plain '?' :: .plain '>' :: rest => some (.atomic, rest)
  | .plain '?' :: .plain '=' :: rest => some (.look false false, rest)
  | .plain '?' :: .plain '!' :: rest => some (.look false true, rest)
  | .plain '?' :: .plain '<' :: .plain '=' :: rest => some (.look true false, rest)
  | .plain '?' :: .plain '<' :: .plain '!' :: rest => some (.look true true, rest)
  | .plain '?' :: .plain '(' :: rest =>
    (Sign.cutUntil? ')' rest).map fun (group, rest) => (.condition group, rest)
  | .plain '?' :: rest =>
    match cutFlags? rest with
    | some (f, rest) => if f.isGlobal then none else some (.scope (f.apply m), rest)
    | none => none
  | rest => some (.kept none, rest)

/-- The cursor after a new group has been opened, which may have a name. -/
def Cursor.open? (c : Cursor) (name : Option Text) (rest : List Sign) : Option Cursor :=
  match name with
  | none => some { c with rest, next := c.next + 1 }
  | some name =>
    if (c.names.lookup name).isSome then none
    else some { c with rest, next := c.next + 1, names := (name, c.next) :: c.names }

/-- Passes over the parenthesis that closes a group. -/
def Cursor.close (c : Cursor) : Except PatternFault Cursor :=
  match c.rest with
  | .plain ')' :: rest => .ok { c with rest }
  | _ => .error .malformed

/-- Reads one part of a pattern that is no group, no repetition and no choice. -/
def readPart? (m : Mode) (c : Cursor) : Sign → List Sign → Option (Part × List Sign)
  | .broken, _ => none
  | .escaped e, rest => escape? m (c.reference? m) e rest
  | .plain '[', rest => readSet? m rest
  | .plain '.', rest => some (.one (.any m.dotAll), rest)
  | .plain '^', rest => some (.anchor (if m.multiline then .lineStart else .textStart), rest)
  | .plain '$', rest => some (.anchor (if m.multiline then .lineEnd else .lastLineEnd), rest)
  | .plain d, rest => some (literal m d, rest)

/-! ## Patterns -/

/-- How deep patterns can stand in each other: a group counts twice, and a condition once. -/
def maxDepth : Nat := 980

mutual

/-- Reads a pattern and the choices beside it. -/
def readChoice (m : Mode) (depth : Nat) : (fuel : Nat) → Cursor →
    Except PatternFault (List Part × Cursor)
  | 0, _ => .error .malformed
  | fuel + 1, c => do
    let (alternatives, c) ← readAlternatives m depth fuel c
    pure (ofAlternatives m.rule alternatives, c)

/-- Reads the alternatives of a choice. -/
def readAlternatives (m : Mode) (depth : Nat) : (fuel : Nat) → Cursor →
    Except PatternFault (List (List Part) × Cursor)
  | 0, _ => .error .malformed
  | fuel + 1, c => do
    let (first, c) ← readSequence m depth fuel [] c
    match c.rest with
    | .plain '|' :: rest =>
      let (others, c) ← readAlternatives m depth fuel { c with rest }
      pure (first :: others, c)
    | _ => pure ([first], c)

/-- Reads the parts of a pattern up to the next choice or closing parenthesis, after pieces that
have been read, the latest first. -/
def readSequence (m : Mode) (depth : Nat) : (fuel : Nat) → List Piece → Cursor →
    Except PatternFault (List Part × Cursor)
  | 0, _, _ => .error .malformed
  | fuel + 1, pieces, c =>
    match c.rest with
    | [] | .plain '|' :: _ | .plain ')' :: _ => .ok (partsOf pieces, c)
    | .plain '(' :: .plain '?' :: .plain '#' :: rest => do
      let rest ← orMalformed (Sign.dropPast? ')' rest)
      readSequence m depth fuel pieces { c with rest }
    | .plain '(' :: rest => do
      let (p, c) ← readGroup m depth fuel { c with rest }
      readSequence m depth fuel (p :: pieces) c
    | s :: rest =>
      match if m.spaced then dropSpacing? c.rest else none with
      | some rest => readSequence m depth fuel pieces { c with rest }
      | none => do
        match ← cutRounds c.rest with
        | some ((least, most), rest) =>
          let (greed, rest) := cutGreed rest
          readSequence m depth fuel (← repeatLast least most greed pieces) { c with rest }
        | none =>
          let (p, rest) ← orMalformed (readPart? m c s rest)
          readSequence m depth fuel (.part p :: pieces) { c with rest }

/-- Reads a group after its opening parenthesis. -/
def readGroup (m : Mode) (depth : Nat) : (fuel : Nat) → Cursor →
    Except PatternFault (Piece × Cursor)
  | 0, _ => .error .malformed
  | fuel + 1, c => do
    let (head, rest) ← orMalformed (cutHead? m c.rest)
    let readInner (m : Mode) (c : Cursor) : Except PatternFault (List Part × Cursor) := do
      if maxDepth < depth + 2 then throw .tooDeep
      let (parts, c) ← readChoice m (depth + 2) fuel c
      pure (parts, ← c.close)
    match head with
    | .named name =>
      let p ← orMalformed ((c.names.lookup name).bind (c.reference? m))
      pure (.part p, { c with rest })
    | .kept name =>
      let (parts, d) ← readInner m (← orMalformed (c.open? name rest))
      let closed := (c.next, Part.widthOf parts) :: d.closed
      pure (.part (.group c.next parts), { d with closed })
    | .loose =>
      let (parts, d) ← readInner m { c with rest }
      pure (.loose parts, d)
    | .scope mode =>
      let (parts, d) ← readInner mode { c with rest }
      pure (.part (.scope parts), d)
    | .atomic =>
      let (parts, d) ← readInner m { c with rest }
      pure (.part (.atomic parts), d)
    | .look backwards complement =>
      let barrier := if backwards then some (c.barrier.getD c.next) else c.barrier
      let (parts, d) ← readInner m { c with rest, barrier }
      pure (.part (.look backwards complement parts), { d with barrier := c.barrier })
    | .condition asked =>
      let number ← orMalformed (c.askedGroup? asked)
      if maxDepth < depth + 1 then throw .tooDeep
      let (yes, d) ← readSequence m (depth + 1) fuel [] { c with rest, asked := number :: c.asked }
      let (no, d) ← match d.rest with
        | .plain '|' :: rest => readSequence m (depth + 1) fuel [] { d with rest }
        | _ => pure ([], d)
      pure (.part (.conditional number yes no), ← d.close)

end

/-- Checks the looks and the repetitions of a pattern that has been read. Under the flag `t` there
are no repetitions. -/
def checkParts (flags : Text) (parts : List Part) : Except PatternFault Unit :=
  if !Part.areAll Part.isFixedLook parts then .error .malformed
  else if flags.contains 't' && !Part.areAll Part.isNoRepetition parts then .error .malformed
  else if !Part.areAll Part.isNearLook parts then .error .farLook
  else .ok ()

/-- Reads a pattern, in which case is disregarded unless its flags say otherwise. Each sign takes at
most four steps. -/
def read (s : Text) : Except PatternFault Pattern := do
  let signs := Sign.ofText s
  let (flags, m, rest) := cutModes (signs.length + 1) [] {} signs
  let (parts, c) ← readChoice m 0 (4 * (rest.length + 1)) { rest }
  if areClashing flags then throw .clashingFlags
  if !c.rest.isEmpty || !c.asked.all (· < c.next) then throw .malformed
  checkParts flags parts
  pure ⟨parts, c.next - 1⟩

end SenderPolicy.Pattern
