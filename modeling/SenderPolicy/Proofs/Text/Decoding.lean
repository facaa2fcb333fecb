import SenderPolicy.Text.Utf8

/-!
# Characters of ASCII in decoded bytes

A byte of ASCII is a character wherever it stands, for it cannot continue a sequence. No other bytes
give a character of ASCII, however they stand together: a sequence that is complete stands for a
number beyond ASCII, since its leading byte bounds the next one from below (`IsBeyondAscii`), and
what is ill formed is replaced. So the characters of ASCII in a decoded text are the bytes of ASCII,
in their order (`filter_isAscii_decodeFrom`), and a text begins with a word of ASCII if the bytes
begin with the bytes of the word (`exists_of_decode_eq_append`).
-/

namespace SenderPolicy

/-- Whether a code point is a character of ASCII. -/
def CodePoint.isAscii (c : CodePoint) : Bool := c.toNat < 0x80

/-- Whether a byte is one of ASCII. -/
def isAsciiByte (b : UInt8) : Bool := b.toNat < 0x80

/-- Bytes read one by one, each as the code point of its number. -/
def textOfBytes (bs : List UInt8) : Text := bs.map fun b => CodePoint.ofNat b.toNat

namespace Utf8

/-! ## Open sequences -/

/-- Whatever bytes complete a sequence, it stands for a number beyond ASCII that is the number of a
code point. -/
structure Pending.IsBeyondAscii (p : Pending) : Prop where
  /-- No byte of ASCII continues the sequence. -/
  low_ge : 0x80 ≤ p.low
  /-- No byte that leads a sequence continues it. -/
  high_le : p.high ≤ 0xBF
  /-- The least number that the sequence can stand for. -/
  least_ge : 0x80 ≤ (p.bits * 0x40 + (p.low - 0x80)) * Nat.pow 0x40 p.owed
  /-- The number after the greatest one that it can stand for. -/
  greatest_le : (p.bits * 0x40 + (p.high - 0x80) + 1) * Nat.pow 0x40 p.owed ≤ 0x110000

/-- A byte of ASCII is a character; any other byte is ill formed or leads a sequence. -/
theorem lead_cases (b : Nat) : b < 0x80 ∧ lead b = ([CodePoint.ofNat b], none) ∨
    0x80 ≤ b ∧ (lead b = ([replacement], none) ∨
      ∃ p : Pending, lead b = ([], some p) ∧ p.IsBeyondAscii) := by
  unfold lead
  by_cases hascii : b < 0x80
  · exact .inl ⟨hascii, if_pos hascii⟩
  · rw [if_neg hascii]
    refine .inr ⟨Nat.not_lt.1 hascii, ?_⟩
    -- Each leading byte has its own bounds on the next one.
    repeat' split
    all_goals first
      | exact .inl rfl
      | refine .inr ⟨_, rfl, ?_, ?_, ?_, ?_⟩
        all_goals
          simp only [Nat.pow_eq]
          omega

/-- A byte that continues a sequence completes it with a character beyond ASCII, or leaves it
open. -/
theorem step_of_continues {p : Pending} (hp : p.IsBeyondAscii) {b : Nat} (hlow : p.low ≤ b)
    (hhigh : b ≤ p.high) :
    (∃ c : CodePoint, step (some p) b = ([c], none) ∧ c.isAscii = false) ∨
      ∃ p' : Pending, step (some p) b = ([], some p') ∧ p'.IsBeyondAscii := by
  obtain ⟨owed, low, high, bits⟩ := p
  obtain ⟨hlow', hhigh', hleast, hgreatest⟩ := hp
  dsimp only at hlow hhigh hlow' hhigh' hleast hgreatest
  unfold step
  dsimp only
  rw [if_pos ⟨hlow, hhigh⟩]
  cases owed with
  | zero =>
    refine .inl ⟨_, rfl, ?_⟩
    rw [Nat.pow_eq, Nat.pow_zero, Nat.mul_one] at hleast hgreatest
    rw [CodePoint.isAscii, CodePoint.toNat_ofNat (by omega)]
    exact decide_eq_false (by omega)
  | succ owed =>
    -- The bits of this byte are the highest of those that were owed.
    rw [Nat.pow_eq, Nat.pow_succ', ← Nat.mul_assoc] at hleast hgreatest
    refine .inr ⟨_, rfl, Nat.le_refl _, Nat.le_refl _, ?_, ?_⟩
    · exact Nat.le_trans hleast (Nat.mul_le_mul_right _ (by dsimp only; omega))
    · exact Nat.le_trans (Nat.mul_le_mul_right _ (by dsimp only; omega)) hgreatest

/-- A byte that does not continue a sequence is read afresh, after a replacement. -/
theorem step_of_breaks {p : Pending} {b : Nat} (h : ¬ (p.low ≤ b ∧ b ≤ p.high)) :
    step (some p) b = (replacement :: (lead b).1, (lead b).2) := if_neg h

/-! ## Characters and bytes of ASCII -/

/-- An open sequence is one that stands for a character beyond ASCII. -/
def IsOpenBeyondAscii (state : Option Pending) : Prop := ∀ p ∈ state, p.IsBeyondAscii

/-- What one byte gives: itself if it is one of ASCII, and no other character of ASCII. -/
theorem filter_isAscii_step {state : Option Pending} (h : IsOpenBeyondAscii state) (b : UInt8) :
    (step state b.toNat).1.filter CodePoint.isAscii = textOfBytes ([b].filter isAsciiByte) ∧
      IsOpenBeyondAscii (step state b.toNat).2 := by
  have hreplacement : replacement.isAscii = false := by decide
  have hlead : (lead b.toNat).1.filter CodePoint.isAscii = textOfBytes ([b].filter isAsciiByte) ∧
      IsOpenBeyondAscii (lead b.toNat).2 := by
    obtain ⟨hascii, hlead⟩ | ⟨hbeyond, hlead | ⟨p, hlead, hp⟩⟩ := lead_cases b.toNat
    · have hc : (CodePoint.ofNat b.toNat).isAscii = true := by
        rw [CodePoint.isAscii, CodePoint.toNat_ofNat (by omega)]
        exact decide_eq_true hascii
      rw [hlead]
      exact ⟨by simp [textOfBytes, isAsciiByte, hc, hascii], by simp [IsOpenBeyondAscii]⟩
    · rw [hlead]
      exact ⟨by simp [textOfBytes, isAsciiByte, hreplacement, hbeyond], by simp [IsOpenBeyondAscii]⟩
    · rw [hlead]
      exact ⟨by simp [textOfBytes, isAsciiByte, hbeyond], by simpa [IsOpenBeyondAscii] using hp⟩
  cases state with
  | none => exact hlead
  | some p =>
    have hp := h p rfl
    by_cases hcontinues : p.low ≤ b.toNat ∧ b.toNat ≤ p.high
    · obtain ⟨hlow, hhigh⟩ := hcontinues
      have hbeyond : isAsciiByte b = false := by
        have := hp.low_ge
        exact decide_eq_false (by omega)
      obtain ⟨c, hstep, hc⟩ | ⟨p', hstep, hp'⟩ := step_of_continues hp hlow hhigh
      · rw [hstep]
        exact ⟨by simp [textOfBytes, hbeyond, hc], by simp [IsOpenBeyondAscii]⟩
      · rw [hstep]
        exact ⟨by simp [textOfBytes, hbeyond], by simpa [IsOpenBeyondAscii] using hp'⟩
    · rw [step_of_breaks hcontinues]
      exact ⟨by rw [List.filter_cons_of_neg (by simp [hreplacement]), hlead.1], hlead.2⟩

/-- The characters of ASCII in a decoded text are the bytes of ASCII, in their order. -/
theorem filter_isAscii_decodeFrom {state : Option Pending} (h : IsOpenBeyondAscii state)
    (bs : List UInt8) : (decodeFrom state bs).filter CodePoint.isAscii =
      textOfBytes (bs.filter isAsciiByte) := by
  induction bs generalizing state with
  | nil => cases state <;> rfl
  | cons b bs ih =>
    obtain ⟨hstep, hopen⟩ := filter_isAscii_step h b
    have hsplit : (b :: bs).filter isAsciiByte =
        [b].filter isAsciiByte ++ bs.filter isAsciiByte := by
      rw [← List.filter_append]
      rfl
    rw [decodeFrom, List.filter_append, hstep, ih hopen, hsplit]
    exact (List.map_append).symm

/-! ## Words of ASCII at the front -/

/-- A text does not begin with a character of ASCII while a sequence is open, and it is not
empty. -/
theorem exists_decodeFrom_some {p : Pending} (hp : p.IsBeyondAscii) (bs : List UInt8) :
    ∃ c s, decodeFrom (some p) bs = c :: s ∧ c.isAscii = false := by
  induction bs generalizing p with
  | nil => exact ⟨replacement, [], rfl, by decide⟩
  | cons b bs ih =>
    rw [decodeFrom]
    by_cases hcontinues : p.low ≤ b.toNat ∧ b.toNat ≤ p.high
    · obtain ⟨hlow, hhigh⟩ := hcontinues
      obtain ⟨c, hstep, hc⟩ | ⟨p', hstep, hp'⟩ := step_of_continues hp hlow hhigh
      · rw [hstep]
        exact ⟨c, _, rfl, hc⟩
      · rw [hstep]
        exact ih hp'
    · rw [step_of_breaks hcontinues]
      exact ⟨replacement, _, rfl, by decide⟩

/-- A byte that stands first begins the text. If the text begins with a character of ASCII, it is
that of the byte, and the rest is decoded afresh. -/
theorem exists_decode_cons (b : UInt8) (bs : List UInt8) : ∃ c s, decode (b :: bs) = c :: s ∧
    (c.isAscii = true → CodePoint.ofNat b.toNat = c ∧ decode bs = s) := by
  have hreplacement : replacement.isAscii = false := by decide
  have hdecode : decode (b :: bs) = (lead b.toNat).1 ++ decodeFrom (lead b.toNat).2 bs := rfl
  obtain ⟨-, hlead⟩ | ⟨-, hlead | ⟨p, hlead, hp⟩⟩ := lead_cases b.toNat
  · rw [hdecode, hlead]
    exact ⟨_, _, rfl, fun _ => ⟨rfl, rfl⟩⟩
  · rw [hdecode, hlead]
    exact ⟨replacement, _, rfl, by simp [hreplacement]⟩
  · obtain ⟨c, s, hopen, hc⟩ := exists_decodeFrom_some hp bs
    rw [hdecode, hlead]
    exact ⟨c, s, hopen, by simp [hc]⟩

/-- Bytes of which nothing is decoded are none. -/
theorem decode_eq_nil_iff {bs : List UInt8} : decode bs = [] ↔ bs = [] := by
  cases bs with
  | nil => exact iff_of_true rfl rfl
  | cons b bs =>
    obtain ⟨c, s, hdecode, -⟩ := exists_decode_cons b bs
    rw [hdecode]
    exact iff_of_false (List.cons_ne_nil c s) (List.cons_ne_nil b bs)

/-- A text that begins with a word of ASCII was decoded from bytes that begin with the bytes of the
word. -/
theorem exists_of_decode_eq_append {word s : Text} {bs : List UInt8} (h : decode bs = word ++ s)
    (hword : ∀ c ∈ word, c.isAscii = true) :
    ∃ front rest, bs = front ++ rest ∧ textOfBytes front = word ∧ decode rest = s := by
  induction word generalizing bs with
  | nil => exact ⟨[], bs, rfl, rfl, h⟩
  | cons c word ih =>
    obtain ⟨hc, htail⟩ := List.forall_mem_cons.1 hword
    cases bs with
    | nil => cases h
    | cons b bs =>
      obtain ⟨c', s', hdecode, hfirst⟩ := exists_decode_cons b bs
      rw [hdecode] at h
      obtain ⟨rfl, rfl⟩ := List.cons.inj h
      obtain ⟨rfl, hbs⟩ := hfirst hc
      obtain ⟨front, rest, rfl, rfl, hs⟩ := ih hbs htail
      exact ⟨b :: front, rest, rfl, rfl, hs⟩

/-- Bytes that begin with bytes of ASCII are decoded as these, and then as what follows. -/
theorem decode_append_of_ascii {front : List UInt8} (h : ∀ b ∈ front, isAsciiByte b = true)
    (rest : List UInt8) : decode (front ++ rest) = textOfBytes front ++ decode rest := by
  induction front with
  | nil => rfl
  | cons b front ih =>
    obtain ⟨hb, hfront⟩ := List.forall_mem_cons.1 h
    rw [List.cons_append, decode_cons_ascii (of_decide_eq_true hb), ih hfront]
    rfl

end Utf8

end SenderPolicy
