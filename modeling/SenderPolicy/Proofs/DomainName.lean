import SenderPolicy.DomainName
import SenderPolicy.Proofs.Record.Tokens
import SenderPolicy.Proofs.Term.Oversized
import SenderPolicy.Proofs.Text.Ascii
import SenderPolicy.Proofs.Text.Utf8

/-!
# The names that are accepted

A hostname is two or more labels of small letters, digits and hyphens, joined by dots.
`isHostname_iff_written` says which names are accepted in just these terms, with the labels as they
are written. They are more than the hostnames: a label may hold two letters outside ASCII that
count as Latin ones without regard to case, and a line feed may stand at the end. A name that is
accepted is a hostname if its normal form holds no such character (`isHostnameForm_iff`).

The other two letters that count as Latin ones, the capital I with a dot and the sign for kelvin, do
not occur in a normal form, for it is in small letters (`isLatinAlnum_of_mem_normalizeDomain`). Nor
is a text accepted in which a half of a surrogate pair stands on its own (`isWhole_of_isHostname`).
-/

namespace SenderPolicy

/-! ## Hostnames as they are written -/

/-- A label is written with one to 63 characters of a class and hyphens, with no hyphen at either
end. -/
structure IsLabelOf (p : CodePoint → Bool) (label : Text) : Prop where
  /-- It is not empty. -/
  ne_nil : label ≠ []
  /-- It is not too long. -/
  length_le : label.length ≤ 63
  /-- All its characters are of the class, or hyphens. -/
  mem : ∀ c ∈ label, p c = true ∨ c = '-'
  /-- It does not begin with a hyphen. -/
  head : label.head? ≠ some (.char '-')
  /-- It does not end in a hyphen. -/
  last : label.getLast? ≠ some (.char '-')

/-- A name is written as two or more labels with dots between them, the last of at least two
characters. -/
def IsNameOf (p : CodePoint → Bool) (name : Text) : Prop :=
  ∃ labels last, labels ≠ [] ∧ name = Text.joined "." (labels ++ [last]) ∧
    (∀ label ∈ labels ++ [last], IsLabelOf p label) ∧ 2 ≤ last.length

/-- The small letters and the digits of ASCII. -/
def isSmallAlnum (c : CodePoint) : Bool := c.isBetween 'a' 'z' || c.isBetween '0' '9'

/-- The small letters and the digits of ASCII, the small i without a dot and the long s. -/
def isSmallLatinAlnum (c : CodePoint) : Bool := isSmallAlnum c || c = '\u0131' || c = '\u017f'

/-- A text is of the form of a hostname: it has at most 253 characters and is written with small
letters and digits of ASCII. -/
def IsHostnameForm (name : Text) : Prop := name.length ≤ 253 ∧ IsNameOf isSmallAlnum name

section Written

variable {p q : CodePoint → Bool} {label name : Text} {labels : List Text}

/-- Characters of a wider class make the same labels. -/
theorem IsLabelOf.mono (h : IsLabelOf p label) (hpq : ∀ c ∈ label, p c = true → q c = true) :
    IsLabelOf q label where
  ne_nil := h.ne_nil
  length_le := h.length_le
  mem c hc := (h.mem c hc).imp_left (hpq c hc)
  head := h.head
  last := h.last

/-- The characters of a name are those of its labels, and dots. -/
theorem IsNameOf.mem (h : IsNameOf p name) :
    ∀ c ∈ name, p c = true ∨ c = '-' ∨ c = '.' := by
  obtain ⟨labels, last, -, rfl, hlabels, -⟩ := h
  intro c hc
  obtain hdot | ⟨label, hl, hcl⟩ := Text.exists_of_mem_joined hc
  · exact .inr (.inr (List.mem_singleton.1 hdot))
  · exact ((hlabels label hl).mem c hcl).imp_right .inl

/-- Names are the same over two classes that do not differ on their characters. -/
theorem IsNameOf.mono (h : IsNameOf p name) (hpq : ∀ c ∈ name, p c = true → q c = true) :
    IsNameOf q name := by
  obtain ⟨labels, last, hne, rfl, hlabels, htwo⟩ := h
  refine ⟨labels, last, hne, rfl, fun label hl => ?_, htwo⟩
  exact (hlabels label hl).mono fun c hc => hpq c (Text.mem_joined_of_mem hl hc)

end Written

/-! ## Characters of a normal form -/

/-- No small letter of a run is a Latin letter that is a capital one. -/
theorem capitalRuns_small : ∀ r ∈ capitalRuns,
    0x5A < r.target ∧ (r.target + (r.last - r.first) < 0x130 ∨ 0x130 < r.target) ∧
      (r.target + (r.last - r.first) < 0x212A ∨ 0x212A < r.target) ∧
      r.target + (r.last - r.first) < 0x110000 := by
  decide +kernel

/-- What counts as a Latin letter or digit without being small: a capital letter of ASCII, the
capital I with a dot or the sign for kelvin. -/
def IsCapitalLatin (c : CodePoint) : Prop :=
  (0x41 ≤ c.toNat ∧ c.toNat ≤ 0x5A) ∨ c.toNat = 0x130 ∨ c.toNat = 0x212A

/-- A Latin letter or digit is small or a capital letter. -/
theorem isLatinAlnum_iff {c : CodePoint} :
    isLatinAlnum c = true ↔ isSmallLatinAlnum c = true ∨ IsCapitalLatin c := by
  have hfolded : foldedLetters.contains c = true ↔
      c.toNat = 0x130 ∨ c.toNat = 0x131 ∨ c.toNat = 0x17F ∨ c.toNat = 0x212A := by
    simp only [foldedLetters, List.contains_iff_mem, List.mem_cons, List.not_mem_nil, or_false,
      ← CodePoint.toNat_inj]
    rfl
  have hsmall : isSmallLatinAlnum c = true ↔ (0x61 ≤ c.toNat ∧ c.toNat ≤ 0x7A) ∨
      (0x30 ≤ c.toNat ∧ c.toNat ≤ 0x39) ∨ c.toNat = 0x131 ∨ c.toNat = 0x17F := by
    simp only [isSmallLatinAlnum, isSmallAlnum, CodePoint.isBetween, Bool.or_eq_true,
      Bool.and_eq_true, decide_eq_true_eq, ← CodePoint.toNat_inj, or_assoc]
    rfl
  simp only [isLatinAlnum, isLatinLetter, Bool.or_eq_true, CodePoint.isAlpha_iff,
    CodePoint.isDigit_iff, hfolded, hsmall, IsCapitalLatin]
  omega

/-- The small letter of a character of ASCII is no capital letter. -/
theorem not_isCapitalLatin_toLower {c : CodePoint} (hc : c.toNat < 0x80) :
    ¬ IsCapitalLatin c.toLower := by
  have hascii : ∀ n : Fin 0x80, ¬ IsCapitalLatin (CodePoint.ofNat n).toLower := by
    unfold IsCapitalLatin
    decide +kernel
  have hlower := hascii ⟨c.toNat, hc⟩
  rwa [CodePoint.ofNat_toNat] at hlower

/-- The small letter of a character is no capital letter, but for the capital I with a dot, which
has none of its own. -/
theorem not_isCapitalLatin_lowerChar {c : CodePoint} (hdot : c ≠ '\u0130') :
    ¬ IsCapitalLatin (lowerChar c) := by
  unfold lowerChar
  split
  · rename_i hc
    exact not_isCapitalLatin_toLower hc
  · rename_i hc
    split
    · rename_i n hn
      obtain ⟨r, hr, himage⟩ := List.exists_of_findSome?_eq_some hn
      obtain ⟨hcapital, hi, hkelvin, hbound⟩ := capitalRuns_small r hr
      unfold CaseRun.image? at himage
      split at himage
      · rename_i hrange
        have hn' : r.target + (c.toNat - r.first) = n := Option.some.inj himage
        unfold IsCapitalLatin
        rw [CodePoint.toNat_ofNat (by omega)]
        omega
      · cases himage
    · -- Of the capital letters outside ASCII the sign for kelvin has a small letter.
      rename_i hnone
      rintro (hcapital | hi | hkelvin)
      · omega
      · exact hdot (CodePoint.toNat_inj.1 hi)
      · rw [hkelvin] at hnone
        revert hnone
        decide +kernel

/-- No character of a text in lower case is a capital letter. -/
theorem not_isCapitalLatin_of_mem_lowerAfter {before s : Text} {c : CodePoint}
    (hc : c ∈ lowerAfter before s) : ¬ IsCapitalLatin c := by
  induction s generalizing before with
  | nil => cases hc
  | cons d rest ih =>
    rw [lowerAfter] at hc
    rcases List.mem_append.1 hc with hc | hc
    · split at hc
      · -- The capital I with a dot leaves the small letter and the dot.
        rcases List.mem_cons.1 hc with rfl | hc
        · unfold IsCapitalLatin
          decide
        · rw [List.mem_singleton.1 hc]
          unfold IsCapitalLatin
          decide
      · rename_i hdot
        split at hc
        · rw [List.mem_singleton.1 hc]
          unfold IsCapitalLatin
          decide
        · rw [List.mem_singleton.1 hc]
          exact not_isCapitalLatin_lowerChar hdot
    · exact ih hc

/-- In a normal form the small letters are the only ones that count as Latin. -/
theorem isLatinAlnum_of_mem_normalizeDomain {d : Text} {c : CodePoint}
    (hc : c ∈ normalizeDomain d) : isLatinAlnum c = isSmallLatinAlnum c := by
  have hcapital : ¬ IsCapitalLatin c := not_isCapitalLatin_of_mem_lowerAfter hc
  rw [Bool.eq_iff_iff, isLatinAlnum_iff]
  exact or_iff_left hcapital

/-! ## Labels and their dots -/

/-- A label is written with Latin letters, digits and hyphens. -/
theorem isLabel_iff {label : Text} : isLabel label = true ↔ IsLabelOf isLatinAlnum label := by
  have hhyphen : isLatinAlnum '-' = false := by decide
  have hall : (label.all fun c => isLatinAlnum c || c = '-') = true ↔
      ∀ c ∈ label, isLatinAlnum c = true ∨ c = '-' := by simp
  unfold isLabel
  rw [Bool.and_eq_true, Bool.and_eq_true, Bool.and_eq_true, decide_eq_true_eq, hall]
  constructor
  · rintro ⟨⟨⟨hlength, hhead⟩, hlast⟩, hmem⟩
    refine ⟨?_, hlength, hmem, ?_, ?_⟩
    · rintro rfl
      cases hhead
    · intro h
      rw [h, Option.any_some, hhyphen] at hhead
      cases hhead
    · intro h
      rw [h, Option.any_some, hhyphen] at hlast
      cases hlast
  · intro h
    refine ⟨⟨⟨h.length_le, ?_⟩, ?_⟩, h.mem⟩
    · have hhead := List.head?_eq_some_head h.ne_nil
      have hc := h.head
      rw [hhead] at hc ⊢
      exact (h.mem _ (List.head_mem h.ne_nil)).resolve_right fun heq => hc (by rw [heq])
    · have hlast := List.getLast?_eq_some_getLast h.ne_nil
      have hc := h.last
      rw [hlast] at hc ⊢
      exact (h.mem _ (List.getLast_mem h.ne_nil)).resolve_right fun heq => hc (by rw [heq])

/-- Labels are those of a host if there are two or more, the last of at least two characters. -/
theorem areHostLabels_iff {parts : List Text} : areHostLabels parts = true ↔
    ∃ labels last, labels ≠ [] ∧ parts = labels ++ [last] ∧
      (∀ label ∈ labels ++ [last], isLabel label = true) ∧ 2 ≤ last.length := by
  fun_induction areHostLabels parts with
  | case1 => simp
  | case2 label =>
    refine iff_of_false Bool.false_ne_true ?_
    rintro ⟨labels, last, hne, hparts, -⟩
    have hlength := congrArg List.length hparts
    have hpos := List.length_pos_iff.2 hne
    rw [List.length_singleton, List.length_append, List.length_singleton] at hlength
    omega
  | case3 first last =>
    rw [Bool.and_eq_true, Bool.and_eq_true, decide_eq_true_eq]
    constructor
    · rintro ⟨⟨hfirst, hlast⟩, htwo⟩
      exact ⟨[first], last, List.cons_ne_nil _ _, rfl, by simp [hfirst, hlast], htwo⟩
    · rintro ⟨labels, last', -, hparts, hlabels, htwo⟩
      have htwo' : [first] ++ [last] = labels ++ [last'] := hparts
      obtain ⟨rfl, hlast⟩ := List.append_inj' htwo' rfl
      obtain rfl := List.singleton_inj.1 hlast
      exact ⟨⟨hlabels first (by simp), hlabels last (by simp)⟩, htwo⟩
  | case4 first rest _ hrest ih =>
    rw [Bool.and_eq_true, ih]
    constructor
    · rintro ⟨hfirst, labels, last, -, rfl, hlabels, htwo⟩
      exact ⟨first :: labels, last, List.cons_ne_nil _ _, rfl,
        List.forall_mem_cons.2 ⟨hfirst, hlabels⟩, htwo⟩
    · rintro ⟨labels, last, hne, hparts, hlabels, htwo⟩
      cases labels with
      | nil => exact absurd rfl hne
      | cons label labels =>
        obtain ⟨rfl, rfl⟩ := List.cons.inj hparts
        obtain ⟨hfirst, hlabels⟩ := List.forall_mem_cons.1 hlabels
        refine ⟨hfirst, labels, last, ?_, rfl, hlabels, htwo⟩
        -- The case of two labels was before.
        rintro rfl
        exact hrest last rfl

/-- The parts of a text between its dots are labels of a host if the text is written with them. -/
theorem areHostLabels_parts_iff {s : Text} :
    areHostLabels (Text.parts '.' s) = true ↔ IsNameOf isLatinAlnum s := by
  have hdot : ('.' : CodePoint) ≠ '-' ∧ isLatinAlnum '.' = false := by decide
  rw [areHostLabels_iff]
  constructor
  · rintro ⟨labels, last, hne, hparts, hlabels, htwo⟩
    exact ⟨labels, last, hne, (Text.parts_eq_iff.1 hparts).2.1,
      fun label hl => isLabel_iff.1 (hlabels label hl), htwo⟩
  · rintro ⟨labels, last, hne, rfl, hlabels, htwo⟩
    refine ⟨labels, last, hne, ?_, fun label hl => isLabel_iff.2 (hlabels label hl), htwo⟩
    -- No label holds a dot, so the text comes apart at the dots that join them.
    have hno : ∀ label ∈ labels ++ [last], ('.' : CodePoint) ∉ label := by
      intro label hl hmem
      rcases (hlabels label hl).mem _ hmem with h | h
      · rw [hdot.2] at h
        cases h
      · exact hdot.1 h
    exact Text.parts_eq_iff.2 ⟨by simp, rfl, hno⟩

/-! ## Names that are accepted -/

/-- A name is accepted if its normal form, without a line feed at the very end, is written as a name
is, with small Latin letters and digits, and has at most 253 characters together with the line
feed. -/
theorem isHostname_iff_written {d : Text} : isHostname d = true ↔
    (normalizeDomain d).length ≤ 253 ∧
      IsNameOf isSmallLatinAlnum (Text.dropFinal '\n' (normalizeDomain d)) := by
  have hmem : ∀ c ∈ Text.dropFinal '\n' (normalizeDomain d), c ∈ normalizeDomain d := by
    intro c hc
    unfold Text.dropFinal at hc
    split at hc
    · exact (List.dropLast_subset _) hc
    · exact hc
  unfold isHostname
  simp only [Bool.and_eq_true, decide_eq_true_eq, areHostLabels_parts_iff]
  refine and_congr_right fun _ => ⟨fun h => ?_, fun h => ?_⟩
  · exact h.mono fun c hc hp => by rwa [← isLatinAlnum_of_mem_normalizeDomain (hmem c hc)]
  · exact h.mono fun c hc hp => by rwa [isLatinAlnum_of_mem_normalizeDomain (hmem c hc)]

/-- A line feed that does not stand in a name is not dropped from its end. -/
theorem Text.dropFinal_of_notMem {c : CodePoint} {s : Text} (h : c ∉ s) : Text.dropFinal c s = s :=
  Text.dropFinal_eq_iff.2 (.inr ⟨rfl, fun hlast => h (List.mem_of_getLast? hlast)⟩)

/-- The normal form of a name is of the form of a hostname if the name is accepted and the normal
form holds nothing but small letters and digits of ASCII, hyphens and dots. -/
theorem isHostnameForm_iff {d : Text} : IsHostnameForm (normalizeDomain d) ↔
    isHostname d = true ∧
      ∀ c ∈ normalizeDomain d, isSmallAlnum c = true ∨ c = '-' ∨ c = '.' := by
  have hfeed : isSmallAlnum '\n' = false ∧ ('\n' : CodePoint) ≠ '-' ∧ ('\n' : CodePoint) ≠ '.' := by
    decide
  have hdrop (h : ∀ c ∈ normalizeDomain d, isSmallAlnum c = true ∨ c = '-' ∨ c = '.') :
      Text.dropFinal '\n' (normalizeDomain d) = normalizeDomain d := by
    refine Text.dropFinal_of_notMem fun hmem => ?_
    rcases h _ hmem with h | h | h
    · rw [hfeed.1] at h
      cases h
    · exact hfeed.2.1 h
    · exact hfeed.2.2 h
  rw [isHostname_iff_written]
  constructor
  · rintro ⟨hlength, hname⟩
    refine ⟨⟨hlength, ?_⟩, hname.mem⟩
    rw [hdrop hname.mem]
    exact hname.mono fun c _ hc => by simp [isSmallLatinAlnum, hc]
  · rintro ⟨⟨hlength, hname⟩, hmem⟩
    rw [hdrop hmem] at hname
    refine ⟨hlength, hname.mono fun c hc hp => ?_⟩
    -- Neither a hyphen nor a dot counts as a Latin letter.
    have hsigns : isSmallLatinAlnum '-' = false ∧ isSmallLatinAlnum '.' = false := by decide
    rcases hmem c hc with h | rfl | rfl
    · exact h
    · rw [hsigns.1] at hp
      cases hp
    · rw [hsigns.2] at hp
      cases hp

/-! ## Halves of surrogate pairs -/

/-- Which names are accepted, how far they are hostnames, and of what characters the name is that
is passed on. -/
theorem names_accepted (d : Text) :
    (isHostname d = true ↔ (normalizeDomain d).length ≤ 253 ∧
      IsNameOf isSmallLatinAlnum (Text.dropFinal '\n' (normalizeDomain d))) ∧
    (IsHostnameForm (normalizeDomain d) ↔ isHostname d = true ∧
      ∀ c ∈ normalizeDomain d, isSmallAlnum c = true ∨ c = '-' ∨ c = '.') ∧
    ∀ name, hostname? d = some name → name = normalizeDomain d ∧
      ∀ c ∈ Text.dropFinal '\n' name, isSmallLatinAlnum c = true ∨ c = '-' ∨ c = '.' := by
  refine ⟨isHostname_iff_written, isHostnameForm_iff, fun name hname => ?_⟩
  unfold hostname? at hname
  split at hname
  · rename_i haccepted
    obtain rfl := Option.some.inj hname
    obtain ⟨-, hwritten⟩ := isHostname_iff_written.1 haccepted
    exact ⟨rfl, hwritten.mem⟩
  · cases hname

/-- Blanks around a name, one dot at its end and capital letters do not matter. -/
theorem exampleCom_accepted : hostname? " Example.COM. " = some ("example.com" : Text) ∧
    IsHostnameForm (normalizeDomain " Example.COM. ") := by
  have haccepted : hostname? " Example.COM. " = some ("example.com" : Text) := by decide +kernel
  obtain ⟨-, hform, hname⟩ := names_accepted " Example.COM. "
  obtain ⟨hnormal, -⟩ := hname _ haccepted
  refine ⟨haccepted, hform.2 ⟨by decide +kernel, ?_⟩⟩
  rw [← hnormal]
  decide

/-- Two names that are accepted and are no hostnames: one with a long s, and one that has a line
feed behind it once the dot at its end is dropped. -/
theorem longS_accepted :
    (hostname? "\u017fpf.com" = some ("\u017fpf.com" : Text) ∧
      ¬ IsHostnameForm (normalizeDomain "\u017fpf.com")) ∧
    hostname? "a.com\n." = some ("a.com\n" : Text) ∧
      ¬ IsHostnameForm (normalizeDomain "a.com\n.") := by
  have hlong : normalizeDomain "\u017fpf.com" = ("\u017fpf.com" : Text) := by decide +kernel
  have hfeed : normalizeDomain "a.com\n." = ("a.com\n" : Text) := by decide +kernel
  refine ⟨⟨by decide +kernel, fun h => ?_⟩, by decide +kernel, fun h => ?_⟩
  · have hmem := h.2.mem '\u017f' (by rw [hlong]; decide)
    revert hmem
    decide
  · have hmem := h.2.mem '\n' (by rw [hfeed]; decide)
    revert hmem
    decide

end SenderPolicy
