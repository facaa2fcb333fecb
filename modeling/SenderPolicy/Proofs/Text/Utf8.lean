import SenderPolicy.Text.Utf8

/-!
# Characters are decoded as they were encoded

The decoder reads the bytes of a character one after another: the first says how many more are owed
and between which values the next one lies, and each of the others adds six bits. So the bytes of a
sequence of characters stand for these characters again (`decode_encode`). A half of a surrogate
pair is no character, and its bytes are ill formed.
-/

namespace SenderPolicy

/-- A text is whole if no half of a surrogate pair stands in it on its own. -/
def Text.IsWhole (s : Text) : Prop := ∀ c ∈ s, ∃ a, c = .char a

/-- A text is whole if its first code point is a character and the rest is whole. -/
theorem Text.isWhole_cons {c : CodePoint} {s : Text} :
    Text.IsWhole (c :: s) ↔ (∃ a, c = .char a) ∧ Text.IsWhole s := List.forall_mem_cons

/-- The characters of a `String` are a whole text. -/
theorem Text.isWhole_ofString (s : String) : (s : Text).IsWhole := by
  intro c hc
  obtain ⟨a, -, rfl⟩ := List.mem_map.1 hc
  exact ⟨a, rfl⟩

namespace Utf8

/-! ## Single bytes -/

/-- The last byte that is owed completes a character. -/
theorem decodeFrom_last {low high bits b : Nat} (hlow : low ≤ b) (hhigh : b ≤ high)
    (hb : b < 0x100) (bs : List UInt8) :
    decodeFrom (some ⟨0, low, high, bits⟩) (UInt8.ofNat b :: bs) =
      CodePoint.ofNat (bits * 0x40 + (b - 0x80)) :: decode bs := by
  have hnat : (UInt8.ofNat b).toNat = b := UInt8.toNat_ofNat_of_lt hb
  rw [decodeFrom, hnat, step, if_pos ⟨hlow, hhigh⟩]
  rfl

/-- A byte that is owed before the last one adds its bits. -/
theorem decodeFrom_next {owed low high bits b : Nat} (hlow : low ≤ b) (hhigh : b ≤ high)
    (hb : b < 0x100) (bs : List UInt8) :
    decodeFrom (some ⟨owed + 1, low, high, bits⟩) (UInt8.ofNat b :: bs) =
      decodeFrom (some ⟨owed, 0x80, 0xBF, bits * 0x40 + (b - 0x80)⟩) bs := by
  have hnat : (UInt8.ofNat b).toNat = b := UInt8.toNat_ofNat_of_lt hb
  rw [decodeFrom, hnat, step, if_pos ⟨hlow, hhigh⟩]
  rfl

/-- A byte that leads a sequence completes nothing. -/
theorem decode_cons_lead {b : Nat} {p : Pending} (hb : b < 0x100) (h : lead b = ([], some p))
    (bs : List UInt8) : decode (UInt8.ofNat b :: bs) = decodeFrom (some p) bs := by
  have hnat : (UInt8.ofNat b).toNat = b := UInt8.toNat_ofNat_of_lt hb
  rw [decode, decodeFrom, hnat, step, h]
  rfl

/-! ## Leading bytes -/

/-- The first of two bytes. -/
theorem lead_two {v : Nat} (hlow : 0x80 ≤ v) (hhigh : v < 0x800) :
    lead (v / 0x40 + 0xC0) = ([], some ⟨0, 0x80, 0xBF, v / 0x40⟩) := by
  unfold lead
  rw [if_neg (by omega), if_neg (by omega), if_pos (by omega), Nat.add_sub_cancel]

/-- The first of three bytes. The bounds on the second one leave out what two bytes could hold, and
the halves of surrogate pairs. -/
theorem exists_lead_three {v : Nat} (hlow : 0x800 ≤ v) (hhigh : v < 0x10000)
    (hhalf : v < 0xD800 ∨ 0xE000 ≤ v) :
    ∃ low high, lead (v / 0x1000 + 0xE0) = ([], some ⟨1, low, high, v / 0x1000⟩) ∧
      low ≤ v / 0x40 % 0x40 + 0x80 ∧ v / 0x40 % 0x40 + 0x80 ≤ high := by
  unfold lead
  rw [if_neg (by omega), if_neg (by omega), if_neg (by omega)]
  -- The bounds are tighter behind the least of these bytes and before the halves.
  by_cases hfirst : v / 0x1000 = 0
  · rw [if_pos (by omega), hfirst]
    exact ⟨_, _, rfl, by omega, by omega⟩
  rw [if_neg (by omega)]
  by_cases hlast : v / 0x1000 = 0xD
  · rw [if_pos (by omega), hlast]
    exact ⟨_, _, rfl, by omega, by omega⟩
  rw [if_neg (by omega), if_pos (by omega), Nat.add_sub_cancel]
  exact ⟨_, _, rfl, by omega, by omega⟩

/-- The first of four bytes. The bounds on the second one leave out what three bytes could hold, and
what lies beyond the last code point. -/
theorem exists_lead_four {v : Nat} (hlow : 0x10000 ≤ v) (hhigh : v < 0x110000) :
    ∃ low high, lead (v / 0x40000 + 0xF0) = ([], some ⟨2, low, high, v / 0x40000⟩) ∧
      low ≤ v / 0x1000 % 0x40 + 0x80 ∧ v / 0x1000 % 0x40 + 0x80 ≤ high := by
  unfold lead
  rw [if_neg (by omega), if_neg (by omega), if_neg (by omega), if_neg (by omega),
    if_neg (by omega), if_neg (by omega)]
  -- The bounds are tighter behind the least and the greatest of these bytes.
  by_cases hfirst : v / 0x40000 = 0
  · rw [if_pos (by omega), hfirst]
    exact ⟨_, _, rfl, by omega, by omega⟩
  rw [if_neg (by omega)]
  by_cases hlast : v / 0x40000 = 4
  · rw [if_neg (by omega), if_pos (by omega), hlast]
    exact ⟨_, _, rfl, by omega, by omega⟩
  rw [if_pos (by omega), Nat.add_sub_cancel]
  exact ⟨_, _, rfl, by omega, by omega⟩

/-! ## Characters -/

/-- Two bytes stand for a character that takes two. -/
theorem decode_two {v : Nat} (hlow : 0x80 ≤ v) (hhigh : v < 0x800) (bs : List UInt8) :
    decode (UInt8.ofNat (v / 0x40 % 0x20 + 0xC0) :: UInt8.ofNat (v % 0x40 + 0x80) :: bs) =
      CodePoint.ofNat v :: decode bs := by
  have hlead : v / 0x40 % 0x20 = v / 0x40 := Nat.mod_eq_of_lt (by omega)
  have hsum : v / 0x40 * 0x40 + (v % 0x40 + 0x80 - 0x80) = v := by omega
  rw [hlead, decode_cons_lead (by omega) (lead_two hlow hhigh),
    decodeFrom_last (by omega) (by omega) (by omega), hsum]

/-- Three bytes stand for a character that takes three. -/
theorem decode_three {v : Nat} (hlow : 0x800 ≤ v) (hhigh : v < 0x10000)
    (hhalf : v < 0xD800 ∨ 0xE000 ≤ v) (bs : List UInt8) :
    decode (UInt8.ofNat (v / 0x1000 % 0x10 + 0xE0) :: UInt8.ofNat (v / 0x40 % 0x40 + 0x80) ::
      UInt8.ofNat (v % 0x40 + 0x80) :: bs) = CodePoint.ofNat v :: decode bs := by
  obtain ⟨low, high, hlead, hfrom, hto⟩ := exists_lead_three hlow hhigh hhalf
  have hmod : v / 0x1000 % 0x10 = v / 0x1000 := Nat.mod_eq_of_lt (by omega)
  have hsum : (v / 0x1000 * 0x40 + (v / 0x40 % 0x40 + 0x80 - 0x80)) * 0x40 +
      (v % 0x40 + 0x80 - 0x80) = v := by omega
  rw [hmod, decode_cons_lead (by omega) hlead, decodeFrom_next hfrom hto (by omega),
    decodeFrom_last (by omega) (by omega) (by omega), hsum]

/-- Four bytes stand for a character that takes four. -/
theorem decode_four {v : Nat} (hlow : 0x10000 ≤ v) (hhigh : v < 0x110000) (bs : List UInt8) :
    decode (UInt8.ofNat (v / 0x40000 % 8 + 0xF0) :: UInt8.ofNat (v / 0x1000 % 0x40 + 0x80) ::
      UInt8.ofNat (v / 0x40 % 0x40 + 0x80) :: UInt8.ofNat (v % 0x40 + 0x80) :: bs) =
        CodePoint.ofNat v :: decode bs := by
  obtain ⟨low, high, hlead, hfrom, hto⟩ := exists_lead_four hlow hhigh
  have hmod : v / 0x40000 % 8 = v / 0x40000 := Nat.mod_eq_of_lt (by omega)
  have hsum : ((v / 0x40000 * 0x40 + (v / 0x1000 % 0x40 + 0x80 - 0x80)) * 0x40 +
      (v / 0x40 % 0x40 + 0x80 - 0x80)) * 0x40 + (v % 0x40 + 0x80 - 0x80) = v := by omega
  rw [hmod, decode_cons_lead (by omega) hlead, decodeFrom_next hfrom hto (by omega),
    decodeFrom_next (by omega) (by omega) (by omega),
    decodeFrom_last (by omega) (by omega) (by omega), hsum]

/-- The bytes of a character stand for it, and what follows them is decoded afresh. -/
theorem decode_bytesOf_append (c : Char) (bs : List UInt8) :
    decode (bytesOf (.char c) ++ bs) = .char c :: decode bs := by
  obtain ⟨v, hv⟩ : ∃ v, c.val.toNat = v := ⟨_, rfl⟩
  have hvalid : v < 0xD800 ∨ 0xDFFF < v ∧ v < 0x110000 := hv ▸ c.valid
  have hchar : CodePoint.ofNat v = .char c := by
    rw [← CodePoint.ofNat_toNat (.char c), ← hv]
    rfl
  show decode (String.utf8EncodeChar c ++ bs) = _
  rw [String.utf8EncodeChar, hv, ← hchar]
  -- How many bytes there are is settled by the number of the character.
  by_cases hone : v ≤ 0x7F
  · have hnat : (UInt8.ofNat v).toNat = v := UInt8.toNat_ofNat_of_lt (show v < 0x100 by omega)
    rw [if_pos hone]
    show decode (UInt8.ofNat v :: bs) = _
    rw [decode_cons_ascii (by omega), hnat]
  rw [if_neg hone]
  by_cases htwo : v ≤ 0x7FF
  · rw [if_pos htwo]
    exact decode_two (by omega) (by omega) bs
  rw [if_neg htwo]
  by_cases hthree : v ≤ 0xFFFF
  · rw [if_pos hthree]
    exact decode_three (by omega) (by omega) (by omega) bs
  · rw [if_neg hthree]
    exact decode_four (by omega) (by omega) bs

/-! ## Texts -/

/-- The bytes of a text without single halves of surrogate pairs stand for this text. -/
theorem decode_encode {s : Text} (h : s.IsWhole) : decode (encode s) = s := by
  induction s with
  | nil => rfl
  | cons c s ih =>
    obtain ⟨⟨a, rfl⟩, hs⟩ := Text.isWhole_cons.1 h
    show decode (bytesOf (.char a) ++ encode s) = _
    rw [decode_bytesOf_append, ih hs]

end Utf8

end SenderPolicy
