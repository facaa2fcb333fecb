import SenderPolicy.Text.Basic

/-!
# UTF-8

Bytes are decoded one at a time. Between characters a byte either is a character of ASCII, or
leads a sequence that owes one to three more bytes, or is ill formed. A byte that cannot continue
the sequence ends it: the sequence so far is replaced by one U+FFFD, and the byte is read afresh.
So each maximal ill-formed part becomes one replacement character.
-/

namespace SenderPolicy.Utf8

/-- A sequence that has begun and is not complete. -/
structure Pending where
  /-- The number of bytes still owed, without the next one. -/
  owed : Nat
  /-- The least value of the next byte. -/
  low : Nat
  /-- The greatest value of the next byte. -/
  high : Nat
  /-- The bits of the code point read so far. -/
  bits : Nat

/-- The character that stands for an ill-formed part. -/
def replacement : CodePoint := '\ufffd'

/-- What a byte between characters gives: the characters it completes, and the sequence it
leads. -/
def lead (b : Nat) : Text × Option Pending :=
  if b < 0x80 then ([CodePoint.ofNat b], none)
  else if b < 0xC2 then ([replacement], none)
  else if b < 0xE0 then ([], some ⟨0, 0x80, 0xBF, b - 0xC0⟩)
  else if b = 0xE0 then ([], some ⟨1, 0xA0, 0xBF, 0⟩)
  else if b = 0xED then ([], some ⟨1, 0x80, 0x9F, 0xD⟩)
  else if b < 0xF0 then ([], some ⟨1, 0x80, 0xBF, b - 0xE0⟩)
  else if b = 0xF0 then ([], some ⟨2, 0x90, 0xBF, 0⟩)
  else if b < 0xF4 then ([], some ⟨2, 0x80, 0xBF, b - 0xF0⟩)
  else if b = 0xF4 then ([], some ⟨2, 0x80, 0x8F, 4⟩)
  else ([replacement], none)

/-- One byte: the characters it completes, and the sequence that is open after it. -/
def step : Option Pending → Nat → Text × Option Pending
  | none, b => lead b
  | some p, b =>
    if p.low ≤ b ∧ b ≤ p.high then
      let bits := p.bits * 0x40 + (b - 0x80)
      match p.owed with
      | 0 => ([CodePoint.ofNat bits], none)
      | owed + 1 => ([], some ⟨owed, 0x80, 0xBF, bits⟩)
    else (replacement :: (lead b).1, (lead b).2)

/-- The characters of the bytes that follow an open sequence. -/
def decodeFrom : Option Pending → List UInt8 → Text
  | none, [] => []
  | some _, [] => [replacement]
  | state, b :: bs => (step state b.toNat).1 ++ decodeFrom (step state b.toNat).2 bs

/-- The text of a sequence of bytes. -/
def decode (bs : List UInt8) : Text := decodeFrom none bs

/-- A byte of ASCII is its own character, and what follows it is decoded afresh. -/
theorem decode_cons_ascii {b : UInt8} (h : b.toNat < 0x80) (bs : List UInt8) :
    decode (b :: bs) = CodePoint.ofNat b.toNat :: decode bs := by
  simp [decode, decodeFrom, step, lead, h]

/-- The bytes of a code point. Half of a surrogate pair takes three, as its number asks for. -/
def bytesOf : CodePoint → List UInt8
  | .char c => String.utf8EncodeChar c
  | .half n => [0xED, UInt8.ofNat (0xA0 + n.val / 0x40), UInt8.ofNat (0x80 + n.val % 0x40)]

/-- The bytes of a text. -/
def encode (s : Text) : List UInt8 := s.flatMap bytesOf

end SenderPolicy.Utf8
