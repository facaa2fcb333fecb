import SenderPolicy.Network.V4
import SenderPolicy.Proofs.Text.Ascii
import SenderPolicy.Proofs.Text.Joined

/-!
# The grammar of IPv4 networks

An IPv4 address is written as the numerals of four octets with dots between them, and a network as
an address, alone or with a suffix after a slash (`IsWithSuffix`). The suffix is a number of leading
bits in digits of ASCII, or a mask that is written like an address. `V4.isNetwork_iff` shows that
these are the networks that are accepted.
-/

namespace SenderPolicy.Network

/-! ## Suffixes -/

/-- What comes from one class of texts, alone or with a suffix from another class after a separator
that stands in neither. -/
def IsWithSuffix (separator : CodePoint) (front suffix : Text → Prop) (s : Text) : Prop :=
  ∃ a, front a ∧ separator ∉ a ∧
    (s = a ∨ ∃ b, suffix b ∧ separator ∉ b ∧ s = a ++ separator :: b)

/-- What follows the first separator in a text. -/
def suffixOf (separator : CodePoint) (s : Text) : Text := (s.dropWhile (· ≠ separator)).drop 1

section Suffix

variable {separator : CodePoint} {front suffix : Text → Prop} {a b : Text}

/-- A text without the separator is no more than a front. -/
theorem isWithSuffix_self_iff (ha : separator ∉ a) :
    IsWithSuffix separator front suffix a ↔ front a := by
  constructor
  · rintro ⟨a', h, -, rfl | ⟨b, -, -, rfl⟩⟩
    · exact h
    · exact absurd (by simp) ha
  · exact fun h => ⟨a, h, ha, .inl rfl⟩

/-- A text with one separator is a front and a suffix. -/
theorem isWithSuffix_append_iff (ha : separator ∉ a) (hb : separator ∉ b) :
    IsWithSuffix separator front suffix (a ++ separator :: b) ↔ front a ∧ suffix b := by
  constructor
  · rintro ⟨a', h, ha', heq | ⟨b', h', hb', heq⟩⟩
    · rw [← heq] at ha'
      exact absurd (by simp) ha'
    · have hparts := Text.parts_eq_pair_iff.2 ⟨heq, ha', hb'⟩
      rw [Text.parts_eq_pair_iff.2 ⟨rfl, ha, hb⟩] at hparts
      cases hparts
      exact ⟨h, h'⟩
  · exact fun ⟨h, h'⟩ => ⟨a, h, ha, .inr ⟨b, h', hb, rfl⟩⟩

/-- What stands in front of a separator is passed over in search of it. -/
theorem dropWhile_front (ha : separator ∉ a) (s : Text) :
    (a ++ s).dropWhile (· ≠ separator) = s.dropWhile (· ≠ separator) := by
  refine List.dropWhile_append_of_pos fun c hc => ?_
  have hne : c ≠ separator := by
    rintro rfl
    exact ha hc
  simpa using hne

/-- Nothing follows a separator that is not there. -/
theorem suffixOf_self (ha : separator ∉ a) : suffixOf separator a = [] := by
  have hdrop := dropWhile_front ha []
  rw [List.append_nil] at hdrop
  rw [suffixOf, hdrop]
  rfl

/-- What follows the first separator is the suffix. -/
theorem suffixOf_append (ha : separator ∉ a) : suffixOf separator (a ++ separator :: b) = b := by
  rw [suffixOf, dropWhile_front ha]
  simp

end Suffix

/-- The test of the parts between separators, of which there must be one or two. -/
def isWithSuffix (separator : CodePoint) (front suffix : Text → Bool) (s : Text) : Bool :=
  match Text.parts separator s with
  | [a] => front a
  | [a, b] => front a && suffix b
  | _ => false

/-- The texts that pass the test of their parts are those that are written so. -/
theorem isWithSuffix_iff {separator : CodePoint} {front suffix : Text → Bool} {s : Text} :
    isWithSuffix separator front suffix s = true ↔
      IsWithSuffix separator (front · = true) (suffix · = true) s := by
  constructor
  · intro h
    unfold isWithSuffix at h
    split at h
    · rename_i a hparts
      obtain ⟨rfl, hno⟩ := Text.parts_eq_singleton_iff.1 hparts
      exact ⟨s, h, hno, .inl rfl⟩
    · rename_i a b hparts
      obtain ⟨rfl, hno, hno'⟩ := Text.parts_eq_pair_iff.1 hparts
      obtain ⟨ha, hb⟩ := Bool.and_eq_true_iff.1 h
      exact ⟨a, ha, hno, .inr ⟨b, hb, hno', rfl⟩⟩
    · cases h
  · rintro ⟨a, ha, hno, rfl | ⟨b, hb, hno', rfl⟩⟩
    · have hparts := Text.parts_eq_singleton_iff.2 ⟨rfl, hno⟩
      simpa [isWithSuffix, hparts] using ha
    · have hparts := Text.parts_eq_pair_iff.2 ⟨rfl, hno, hno'⟩
      simpa [isWithSuffix, hparts] using ⟨ha, hb⟩

/-- A number of leading bits of an address of `width` bits, in digits of ASCII that are not too many
to be read. -/
def IsPrefixLength (width : Nat) (s : Text) : Prop :=
  s ≠ [] ∧ (∀ c ∈ s, c.isDigit = true) ∧ s.length ≤ maxDigits ∧ decimalValue s ≤ width

/-- A text of digits is a number of leading bits if it is not too long and its value not too
great. -/
theorem isBitCount_iff {width : Nat} {s : Text} :
    isBitCount width s = true ↔ IsPrefixLength width s := by
  simp [isBitCount, isDigits, IsPrefixLength, and_assoc]

/-- The numeral of a number below a thousand has at most three digits. -/
theorem length_numeral_le {n : Nat} (hn : n < 1000) : (numeral n).length ≤ 3 := by
  rw [numeral, List.length_map, Nat.length_toDigits_le_iff (by omega) (by omega)]
  omega

/-- The digits of a number of leading bits are not too many to be read. -/
theorem isPrefixLength_numeral {width n : Nat} (hn : n ≤ width) (hwidth : width < 1000) :
    IsPrefixLength width (numeral n) := by
  obtain ⟨hne, hdigits, -, hvalue⟩ := eq_numeral_iff.1 (rfl : numeral n = numeral n)
  have hlength := length_numeral_le (Nat.lt_of_le_of_lt hn hwidth)
  exact ⟨hne, hdigits, Nat.le_trans hlength (by decide), by omega⟩

/-- A number of leading bits is written as its numeral if no needless zero stands in front. -/
theorem IsPrefixLength.exists_numeral {width : Nat} {s : Text} (h : IsPrefixLength width s)
    (hshortest : IsShortest s) : ∃ n ≤ width, s = numeral n :=
  ⟨decimalValue s, h.2.2.2, eq_numeral_iff.2 ⟨h.1, h.2.1, hshortest, rfl⟩⟩

/-- A network has the numeral of a number of leading bits for its suffix if and only if it has a
number of leading bits with no needless zero in front of it. -/
theorem numeral_suffix_iff {front : Text → Prop} {width : Nat} {s : Text} (hwidth : width < 1000) :
    IsWithSuffix '/' front (fun b => ∃ n ≤ width, b = numeral n) s ↔
      IsWithSuffix '/' front (IsPrefixLength width) s ∧ IsShortest (suffixOf '/' s) := by
  have hnumeral : ∀ {b}, (∃ n ≤ width, b = numeral n) ↔ IsPrefixLength width b ∧ IsShortest b := by
    intro b
    constructor
    · rintro ⟨n, hn, rfl⟩
      exact ⟨isPrefixLength_numeral hn hwidth, isShortest_numeral n⟩
    · exact fun ⟨hb, hshortest⟩ => hb.exists_numeral hshortest
  constructor
  · rintro ⟨a, ha, hno, rfl | ⟨b, hb, hno', rfl⟩⟩
    · rw [suffixOf_self hno]
      exact ⟨(isWithSuffix_self_iff hno).2 ha, .inr (by simp)⟩
    · obtain ⟨hlength, hshortest⟩ := hnumeral.1 hb
      rw [suffixOf_append hno]
      exact ⟨(isWithSuffix_append_iff hno hno').2 ⟨ha, hlength⟩, hshortest⟩
  · rintro ⟨⟨a, ha, hno, rfl | ⟨b, hb, hno', rfl⟩⟩, hshortest⟩
    · exact (isWithSuffix_self_iff hno).2 ha
    · rw [suffixOf_append hno] at hshortest
      exact (isWithSuffix_append_iff hno hno').2 ⟨ha, hnumeral.2 ⟨hb, hshortest⟩⟩

namespace V4

/-! ## Addresses and masks -/

/-- Four octets as they are written. -/
def dotted (a b c d : Nat) : Text := Text.joined "." [numeral a, numeral b, numeral c, numeral d]

/-- The number of an address is written with its four octets. -/
def IsAddressOf (m : Nat) (s : Text) : Prop :=
  ∃ a b c d, a ≤ 255 ∧ b ≤ 255 ∧ c ≤ 255 ∧ d ≤ 255 ∧ s = dotted a b c d ∧
    m = ((a * 256 + b) * 256 + c) * 256 + d

/-- Four octets with dots between them. -/
def IsAddress (s : Text) : Prop := ∃ m, IsAddressOf m s

/-- An address whose one bits are the leading ones, or the trailing ones. -/
def IsMask (s : Text) : Prop :=
  ∃ m k, IsAddressOf m s ∧ k ≤ width ∧
    (m + Nat.pow 2 k = Nat.pow 2 width ∨ m + 1 = Nat.pow 2 k)

section Address

variable {s : Text} {m n : Nat}

/-- An octet is a number up to 255, in its shortest numeral. -/
theorem octet?_eq_some_iff : octet? s = some n ↔ n ≤ 255 ∧ s = numeral n := by
  have htest : octet? s = some n ↔ ((s ≠ [] ∧ (∀ c ∈ s, c.isDigit = true)) ∧ s.length ≤ 3 ∧
      IsShortest s ∧ decimalValue s ≤ 255) ∧ decimalValue s = n := by
    simp [octet?, isDigits, IsShortest, and_assoc]
  rw [htest, eq_numeral_iff]
  constructor
  · rintro ⟨⟨⟨hne, hdigits⟩, -, hshortest, hvalue⟩, rfl⟩
    exact ⟨hvalue, hne, hdigits, hshortest, rfl⟩
  · rintro ⟨hn, hs⟩
    obtain ⟨hne, hdigits, hshortest, hvalue⟩ := hs
    have hlength := length_numeral_le (Nat.lt_of_le_of_lt hn (by omega : 255 < 1000))
    rw [← eq_numeral_iff.2 ⟨hne, hdigits, hshortest, hvalue⟩] at hlength
    exact ⟨⟨⟨hne, hdigits⟩, hlength, hshortest, by omega⟩, hvalue⟩

/-- The octets of an address are its parts between dots. -/
theorem parts_dotted (a b c d : Nat) :
    Text.parts '.' (dotted a b c d) = [numeral a, numeral b, numeral c, numeral d] := by
  refine Text.parts_eq_iff.2 ⟨List.cons_ne_nil _ _, rfl, ?_⟩
  have hdot : (CodePoint.char '.').isDigit = false := by decide
  have hno : ∀ n, .char '.' ∉ numeral n := by
    intro n hmem
    rw [isDigit_of_mem_numeral hmem] at hdot
    cases hdot
  simp [hno]

/-- The texts that are read as an address are written as one. -/
theorem address?_eq_some_iff : address? s = some m ↔ IsAddressOf m s := by
  unfold address?
  constructor
  · intro h
    split at h
    · rename_i a b c d hparts
      obtain ⟨p, ps, hp, ha, hps⟩ := List.map_eq_cons_iff.1 hparts
      obtain ⟨q, qs, rfl, hb, hqs⟩ := List.map_eq_cons_iff.1 hps
      obtain ⟨r, rs, rfl, hc, hrs⟩ := List.map_eq_cons_iff.1 hqs
      obtain ⟨t, ts, rfl, hd, hts⟩ := List.map_eq_cons_iff.1 hrs
      obtain rfl := List.map_eq_nil_iff.1 hts
      obtain ⟨ha', rfl⟩ := octet?_eq_some_iff.1 ha
      obtain ⟨hb', rfl⟩ := octet?_eq_some_iff.1 hb
      obtain ⟨hc', rfl⟩ := octet?_eq_some_iff.1 hc
      obtain ⟨hd', rfl⟩ := octet?_eq_some_iff.1 hd
      exact ⟨a, b, c, d, ha', hb', hc', hd', (Text.parts_eq_iff.1 hp).2.1,
        (Option.some.inj h).symm⟩
    · cases h
  · rintro ⟨a, b, c, d, ha, hb, hc, hd, rfl, rfl⟩
    have hoctet : ∀ {n}, n ≤ 255 → octet? (numeral n) = some n :=
      fun hn => octet?_eq_some_iff.2 ⟨hn, rfl⟩
    rw [parts_dotted, List.map_cons, List.map_cons, List.map_cons, List.map_cons, List.map_nil,
      hoctet ha, hoctet hb, hoctet hc, hoctet hd]

/-- The texts that are read as some address are addresses. -/
theorem isSome_address?_iff : (address? s).isSome = true ↔ IsAddress s := by
  simp only [Option.isSome_iff_exists, address?_eq_some_iff, IsAddress]

/-- A mask has one bits in front or behind, and nowhere else. -/
theorem isMask_iff : isMask m = true ↔
    ∃ k ≤ width, m + Nat.pow 2 k = Nat.pow 2 width ∨ m + 1 = Nat.pow 2 k := by
  simp only [isMask, List.any_eq_true, List.mem_range, Nat.lt_succ_iff, Bool.or_eq_true,
    decide_eq_true_eq]

/-- The characters of an address are digits and dots, and it holds a dot. -/
theorem IsAddress.chars (h : IsAddress s) :
    (∀ c ∈ s, c.isDigit = true ∨ c = '.') ∧ .char '.' ∈ s := by
  obtain ⟨m, a, b, c, d, -, -, -, -, rfl, -⟩ := h
  have hdotted : dotted a b c d = numeral a ++ .char '.' :: (numeral b ++ .char '.' ::
      (numeral c ++ .char '.' :: numeral d)) := by
    simp [dotted, Text.joined]
    rfl
  rw [hdotted]
  refine ⟨fun c hc => ?_, by simp⟩
  simp only [List.mem_append, List.mem_cons] at hc
  rcases hc with hc | rfl | hc | rfl | hc | rfl | hc
  all_goals first
    | exact .inr rfl
    | exact .inl (isDigit_of_mem_numeral hc)

/-! ## Networks -/

/-- A suffix that is accepted is a number of leading bits or a mask. -/
theorem isSuffix_iff : isSuffix s = true ↔ IsPrefixLength width s ∨ IsMask s := by
  have hmask : (address? s).any isMask = true ↔ IsMask s := by
    rw [Option.any_eq_true]
    simp only [address?_eq_some_iff, isMask_iff]
    constructor
    · rintro ⟨m, hm, k, hk, hones⟩
      exact ⟨m, k, hm, hk, hones⟩
    · rintro ⟨m, k, hm, hk, hones⟩
      exact ⟨m, hm, k, hk, hones⟩
  rw [isSuffix, Bool.or_eq_true, isBitCount_iff, hmask]

/-- The networks that are accepted are addresses, alone or with a number of leading bits or a mask
after a slash. -/
theorem isNetwork_iff : isNetwork s = true ↔
    IsWithSuffix '/' IsAddress (fun b => IsPrefixLength width b ∨ IsMask b) s := by
  have htest : isNetwork s = isWithSuffix '/' (fun a => (address? a).isSome) isSuffix s := rfl
  rw [htest, isWithSuffix_iff]
  simp only [isSome_address?_iff, isSuffix_iff]

/-- A network that is accepted has no mask if and only if no dot follows its slash. -/
theorem plain_iff (h : isNetwork s = true) :
    IsWithSuffix '/' IsAddress (IsPrefixLength width) s ↔ .char '.' ∉ suffixOf '/' s := by
  have hdot : (CodePoint.char '.').isDigit = false := by decide
  obtain ⟨a, ha, hno, rfl | ⟨b, hb, hno', rfl⟩⟩ := isNetwork_iff.1 h
  · simp [isWithSuffix_self_iff hno, suffixOf_self hno, ha]
  · rw [isWithSuffix_append_iff hno hno', suffixOf_append hno]
    rcases hb with hb | ⟨m, k, hm, -⟩
    · refine iff_of_true ⟨ha, hb⟩ fun hmem => ?_
      rw [hb.2.1 _ hmem] at hdot
      cases hdot
    · have hmem := (IsAddress.chars ⟨m, hm⟩).2
      refine iff_of_false (fun hlength => ?_) fun hnot => hnot hmem
      rw [hlength.2.2.1 _ hmem] at hdot
      cases hdot

end Address

end V4

end SenderPolicy.Network
