import Mathlib.Data.List.Forall2
import SenderPolicy.Lookup
import SenderPolicy.Proofs.Record.Isolation
import SenderPolicy.Proofs.Text.Decoding
import SenderPolicy.Proofs.Text.Utf8

/-!
# What a lookup shows of the bytes

The strings of a record are joined before they are decoded, so it does not matter where they were
cut: texts come back as they were encoded (`Reply.answer_of_encoded`). Bytes that encode no text are
decoded all the same. They cannot pass for the version tag, and they cannot hide it, for the text
shows the bytes of ASCII and no other characters of ASCII. So a text is an SPF record if and only if
its bytes begin with the version tag (`isSpfRecord_decode_iff`).
-/

namespace SenderPolicy

/-- A text begins with the version tag, in capital or small letters, and ends there or goes on with
a space. -/
theorem isSpfRecord_iff_begins {s : Text} : isSpfRecord s = true ↔
    ∃ tag rest, s = tag ++ rest ∧ Text.toLowerAscii tag = versionTag ∧
      (rest = [] ∨ rest.head? = some (.char ' ')) := by
  have htag : versionTag.length = 6 := rfl
  have hlength {word tag : Text} (h : Text.toLowerAscii word = tag) : word.length = tag.length := by
    rw [← h]
    exact (List.length_map _).symm
  have hspace : ∀ n : Fin 0x80, (CodePoint.ofNat n).toLower = ' ' → CodePoint.ofNat n = ' ' := by
    decide +kernel
  rw [Record.isSpfRecord_iff]
  constructor
  · rintro (h | h)
    · -- There are no seven characters, so these are all.
      have hsix := hlength h
      rw [List.length_take] at hsix
      rw [List.take_of_length_le (by omega)] at h
      exact ⟨s, [], (List.append_nil s).symm, h, .inl rfl⟩
    · obtain ⟨tag, last, htake, hword, hlast⟩ := List.map_eq_append_iff.1 h
      obtain ⟨c, rest, rfl, hc, hnil⟩ := List.map_eq_cons_iff.1 hlast
      obtain rfl := List.map_eq_nil_iff.1 hnil
      have hascii : c.toNat < 0x80 := by
        refine toNat_lt_of_isPlain_toLower ?_
        rw [hc]
        unfold IsPlain
        decide
      have hc' := hspace ⟨c.toNat, hascii⟩
      rw [CodePoint.ofNat_toNat] at hc'
      obtain rfl := hc' hc
      refine ⟨tag, .char ' ' :: s.drop 7, ?_, hword, .inr rfl⟩
      rw [List.append_cons, ← htake, List.take_append_drop]
  · rintro ⟨tag, rest, rfl, hword, rfl | hrest⟩
    · left
      rw [List.append_nil, List.take_of_length_le (by rw [hlength hword, htag]; decide)]
      exact hword
    · right
      obtain ⟨more, rfl⟩ := List.head?_eq_some_iff.1 hrest
      have htake : (tag ++ .char ' ' :: more).take 7 = tag ++ [.char ' '] := by
        rw [List.append_cons]
        exact List.take_left' (by rw [List.length_append, hlength hword, htag]; rfl)
      rw [htake, Text.toLowerAscii, List.map_append, ← Text.toLowerAscii, hword]
      rfl

/-! ## Bytes that begin with the version tag -/

/-- Bytes begin with the version tag, in capital or small letters, and end there or go on with the
byte of a space. -/
def BeginsWithTag (bs : List UInt8) : Prop :=
  ∃ tag rest, bs = tag ++ rest ∧ Text.toLowerAscii (textOfBytes tag) = versionTag ∧
    (rest = [] ∨ rest.head? = some 0x20)

/-- The version tag is spelled in ASCII. -/
theorem isAscii_of_mem_tag {tag : Text} (h : Text.toLowerAscii tag = versionTag) :
    ∀ c ∈ tag, c.isAscii = true := by
  have hplain : ∀ c ∈ versionTag, IsPlain c := by
    unfold IsPlain
    decide
  intro c hc
  have hlower : c.toLower ∈ versionTag := by
    rw [← h]
    exact List.mem_map_of_mem hc
  exact decide_eq_true (toNat_lt_of_isPlain_toLower (hplain _ hlower))

/-- The code point of a byte has the number of the byte. -/
theorem toNat_ofNat_byte (b : UInt8) : (CodePoint.ofNat b.toNat).toNat = b.toNat := by
  have hb : b.toNat < 0x100 := b.toNat_lt
  exact CodePoint.toNat_ofNat (by omega)

/-- A text that was decoded is an SPF record if and only if its bytes begin with the version tag. -/
theorem isSpfRecord_decode_iff {bs : List UInt8} :
    isSpfRecord (Utf8.decode bs) = true ↔ BeginsWithTag bs := by
  rw [isSpfRecord_iff_begins]
  constructor
  · rintro ⟨tag, rest, hdecode, htag, hrest⟩
    obtain ⟨front, bytes, rfl, rfl, rfl⟩ :=
      Utf8.exists_of_decode_eq_append hdecode (isAscii_of_mem_tag htag)
    refine ⟨front, bytes, rfl, htag, ?_⟩
    rcases hrest with hnil | hspace
    · exact .inl (Utf8.decode_eq_nil_iff.1 hnil)
    · cases bytes with
      | nil => cases hspace
      | cons b bytes =>
        obtain ⟨c, s, hcons, hfirst⟩ := Utf8.exists_decode_cons b bytes
        rw [hcons] at hspace
        obtain rfl := Option.some.inj hspace
        obtain ⟨hb, -⟩ := hfirst (by decide)
        have hnat : b.toNat = 0x20 := by
          rw [← toNat_ofNat_byte, hb]
          rfl
        exact .inr (congrArg some (UInt8.toNat_inj.1 hnat))
  · rintro ⟨tag, rest, rfl, htag, hrest⟩
    have hascii : ∀ b ∈ tag, isAsciiByte b = true := by
      intro b hb
      have hc := isAscii_of_mem_tag htag _ (List.mem_map_of_mem hb)
      rwa [CodePoint.isAscii, toNat_ofNat_byte] at hc
    refine ⟨textOfBytes tag, Utf8.decode rest, Utf8.decode_append_of_ascii hascii rest, htag, ?_⟩
    rcases hrest with rfl | hspace
    · exact .inl rfl
    · obtain ⟨more, rfl⟩ := List.head?_eq_some_iff.1 hspace
      rw [Utf8.decode_cons_ascii (by decide)]
      exact .inr rfl

/-! ## Answers -/

/-- Records whose strings were cut from the bytes of texts are answered with these texts. -/
theorem Reply.answer_of_encoded {domain : Text} {texts : List Text}
    {records : List (List (List UInt8))} (htexts : ∀ s ∈ texts, s.IsWhole)
    (hcut : records.map List.flatten = texts.map Utf8.encode) :
    Reply.answer domain (.records records) = .texts texts := by
  have hdecode : texts.map (Utf8.decode ∘ Utf8.encode) = texts.map id :=
    List.map_congr_left fun s hs => Utf8.decode_encode (htexts s hs)
  have hrecords : records.map recordText = texts := by
    calc records.map recordText = (records.map List.flatten).map Utf8.decode :=
          List.map_map.symm
      _ = texts.map (Utf8.decode ∘ Utf8.encode) := by rw [hcut, List.map_map]
      _ = texts := by rw [hdecode, List.map_id]
  show Answer.texts (records.map recordText) = _
  rw [hrecords]

/-- What a text shows of the bytes that it was decoded from, whether they are well formed or not. -/
structure ShowsAscii (bs : List UInt8) (text : Text) : Prop where
  /-- Its characters of ASCII are the bytes of ASCII, in their order. -/
  filter_isAscii : text.filter CodePoint.isAscii = textOfBytes (bs.filter isAsciiByte)
  /-- It is an SPF record if and only if the bytes begin with the version tag. -/
  isSpfRecord_iff : isSpfRecord text = true ↔ BeginsWithTag bs

/-- A text that was decoded shows its bytes of ASCII. -/
theorem showsAscii_decode (bs : List UInt8) : ShowsAscii bs (Utf8.decode bs) where
  filter_isAscii := Utf8.filter_isAscii_decodeFrom (by simp [Utf8.IsOpenBeyondAscii]) bs
  isSpfRecord_iff := isSpfRecord_decode_iff

/-- Answers are faithful to the bytes of the records. Texts that were encoded are answered as they
were, in their order, however their bytes are cut into strings. Whatever the bytes of a record are,
its text shows those of ASCII and no others as such, so an SPF record is neither forged nor
hidden. -/
theorem answers_faithful (domain : Text) (records : List (List (List UInt8))) :
    (∀ texts : List Text, (∀ s ∈ texts, s.IsWhole) →
      records.map List.flatten = texts.map Utf8.encode →
        Reply.answer domain (.records records) = .texts texts) ∧
    ∃ texts, Reply.answer domain (.records records) = .texts texts ∧
      List.Forall₂ (fun strings text => ShowsAscii strings.flatten text) records texts := by
  refine ⟨fun texts => Reply.answer_of_encoded, records.map recordText, rfl, ?_⟩
  rw [List.forall₂_map_right_iff, List.forall₂_same]
  exact fun strings _ => showsAscii_decode strings.flatten

/-- Two records, one of which is cut within two of its characters. -/
def cutRecords : List (List (List UInt8)) :=
  [[[0x76, 0x3D, 0x73, 0x70, 0x66, 0x31, 0x20, 0xC3], [0xA9, 0xE2, 0x82], [0xAC]], []]

/-- The characters that are cut come back whole. The version tag is not forged by an overlong form
of its first letter. -/
theorem cutRecords_answered :
    Reply.answer "a" (.records cutRecords) = .texts ["v=spf1 \u00e9\u20ac", ""] ∧
      ∃ text, Reply.answer "a" (.records [[[0xC1], [0xB6, 0x3D, 0x73, 0x70, 0x66, 0x31]]]) =
        .texts [text] ∧ isSpfRecord text = false ∧
        text.filter CodePoint.isAscii = ("=spf1" : Text) := by
  have hwhole : ∀ s ∈ ([("v=spf1 \u00e9\u20ac" : Text), ("" : Text)] : List Text), s.IsWhole := by
    simp only [List.mem_cons, List.not_mem_nil, or_false]
    rintro s (rfl | rfl)
    · exact Text.isWhole_ofString _
    · exact Text.isWhole_ofString _
  have hcut : cutRecords.map List.flatten =
      ([("v=spf1 \u00e9\u20ac" : Text), ("" : Text)] : List Text).map Utf8.encode := by
    decide +kernel
  obtain ⟨hsame, -⟩ := answers_faithful "a" cutRecords
  obtain ⟨-, texts, hanswer, hshows⟩ :=
    answers_faithful "a" [[[0xC1], [0xB6, 0x3D, 0x73, 0x70, 0x66, 0x31]]]
  obtain ⟨text, rest, hshown, hnone, rfl⟩ := List.forall₂_cons_left_iff.1 hshows
  obtain rfl := List.forall₂_nil_left_iff.1 hnone
  refine ⟨hsame _ hwhole hcut, text, hanswer, ?_, ?_⟩
  · rw [← Bool.not_eq_true, hshown.isSpfRecord_iff]
    rintro ⟨tag, rest, hbytes, htag, -⟩
    cases tag with
    | nil => cases htag
    | cons b tag =>
      -- The first byte is none of a letter v.
      obtain ⟨rfl, -⟩ := List.cons.inj hbytes
      exact absurd (List.cons.inj htag).1 (by decide)
  · rw [hshown.filter_isAscii]
    decide +kernel

end SenderPolicy
