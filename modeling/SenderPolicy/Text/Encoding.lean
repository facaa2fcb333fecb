import SenderPolicy.Text.Half
import SenderPolicy.Text.Utf8

/-!
# Encodings of text

A text of JSON is written in bytes in units of one, two or four bytes. A byte order mark in front
tells which; without one the zeros among the first bytes tell, because the first character of such
a text is one of ASCII.
-/

namespace SenderPolicy

/-- The ways in which text is written in bytes. -/
inductive Encoding
  /-- Units of one byte. -/
  | narrow
  /-- Units of two bytes, the greater one first or last. -/
  | wide (greaterFirst : Bool)
  /-- Units of four bytes, the greatest one first or last. -/
  | widest (greaterFirst : Bool)
  deriving DecidableEq, Repr

namespace Encoding

/-- The byte order marks, each with the encoding that it tells. -/
def marks : List (List UInt8 × Encoding) :=
  [([0x00, 0x00, 0xFE, 0xFF], .widest true), ([0xFF, 0xFE, 0x00, 0x00], .widest false),
   ([0xFE, 0xFF], .wide true), ([0xFF, 0xFE], .wide false), ([0xEF, 0xBB, 0xBF], .narrow)]

/-- The encoding that the zeros among the first bytes tell. -/
def ofZeros : List UInt8 → Encoding
  | a :: b :: c :: d :: _ =>
    if a = 0 then if b = 0 then .widest true else .wide true
    else if b = 0 then if c = 0 ∧ d = 0 then .widest false else .wide false
    else .narrow
  | [a, b] => if a = 0 then .wide true else if b = 0 then .wide false else .narrow
  | _ => .narrow

/-- The encoding of a text of JSON, and its bytes without the mark in front. -/
def detect (bytes : List UInt8) : Encoding × List UInt8 :=
  match marks.find? (·.1.isPrefixOf bytes) with
  | some (mark, e) => (e, bytes.drop mark.length)
  | none => (ofZeros bytes, bytes)

/-- The number of bytes, the greatest one first. -/
def unitOf (bytes : List UInt8) : Nat := bytes.foldl (fun n b => 0x100 * n + b.toNat) 0

/-- The number of bytes in an order. -/
def orderedUnit (greaterFirst : Bool) (bytes : List UInt8) : Nat :=
  unitOf (if greaterFirst then bytes else bytes.reverse)

/-- The units of two bytes, unless a byte is left over. -/
def wideUnits? (greaterFirst : Bool) : List UInt8 → Option (List Nat)
  | [] => some []
  | a :: b :: rest => (wideUnits? greaterFirst rest).map (orderedUnit greaterFirst [a, b] :: ·)
  | [_] => none

/-- The units of four bytes, unless bytes are left over. -/
def widestUnits? (greaterFirst : Bool) : List UInt8 → Option (List Nat)
  | [] => some []
  | a :: b :: c :: d :: rest =>
    (widestUnits? greaterFirst rest).map (orderedUnit greaterFirst [a, b, c, d] :: ·)
  | _ => none

/-- The text of a sequence of bytes, if they are well formed. -/
def decode? : Encoding → List UInt8 → Option Text
  | .narrow, bytes =>
    let text := Utf8.decode bytes
    if Utf8.encode text = bytes then some text else none
  | .wide greaterFirst, bytes => (wideUnits? greaterFirst bytes).map joinHalves
  | .widest greaterFirst, bytes =>
    match widestUnits? greaterFirst bytes with
    | some ns => if ns.all (· < 0x110000) then some (ns.map CodePoint.ofNat) else none
    | none => none

end Encoding

end SenderPolicy
