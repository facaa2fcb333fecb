import SenderPolicy.Network.V4

/-!
# IPv6 networks

An address is eight groups of hexadecimal digits between colons. Two colons stand for one or more
groups of zeros, and the last two groups may be written as an IPv4 address. A scope may follow
after a percent sign, and a number of leading bits after a slash.
-/

namespace SenderPolicy.Network.V6

/-- The number of bits of an address. -/
def width : Nat := 128

/-- The number of groups of an address. -/
def groupCount : Nat := 8

/-- A group: one to four hexadecimal digits. -/
def isGroup (s : Text) : Bool := !s.isEmpty && s.length ≤ 4 && s.all fun c => (hexValue? c).isSome

/-- How many groups the parts between colons stand for, if each is a group or, at the end, an IPv4
address. -/
def countGroups? : List Text → Option Nat
  | [] => some 0
  | [p] => if isGroup p then some 1 else if (V4.address? p).isSome then some 2 else none
  | p :: ps => if isGroup p then (countGroups? ps).map (· + 1) else none

/-- How many groups a side of the two colons stands for, which may be empty. -/
def sideGroups? (s : Text) : Option Nat :=
  if s.isEmpty then some 0 else countGroups? (Text.parts ':' s)

/-- The text before the first two colons in a row, and the text after them. -/
def cutColons? : Text → Option (Text × Text)
  | ':' :: ':' :: rest => some ([], rest)
  | c :: rest => (cutColons? rest).map fun (before, after) => (c :: before, after)
  | [] => none

/-- An address without a scope. -/
def isAddress (s : Text) : Bool :=
  match cutColons? s with
  | none => countGroups? (Text.parts ':' s) = some groupCount
  | some (before, after) =>
    match sideGroups? before, sideGroups? after with
    | some m, some n => !before.contains '.' && m + n < groupCount
    | _, _ => false

/-- An address, alone or with a scope that is not empty. -/
def isScopedAddress (s : Text) : Bool :=
  match Text.parts '%' s with
  | [a] => isAddress a
  | [a, scope] => isAddress a && !scope.isEmpty
  | _ => false

/-- An address, alone or with a suffix. -/
def isNetwork (s : Text) : Bool :=
  match Text.parts '/' s with
  | [a] => isScopedAddress a
  | [a, suffix] => isScopedAddress a && isBitCount width suffix
  | _ => false

end SenderPolicy.Network.V6
