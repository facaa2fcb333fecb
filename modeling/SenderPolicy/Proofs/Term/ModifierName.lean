import SenderPolicy.Proofs.Term.RoundTrip

/-!
# The names of modifiers

A keyword is read without regard to the case of ASCII letters, and a modifier is counted under the
full lower case of its name. The two mappings agree on every text whose lower case is in ASCII
without the letter k, for the sign for kelvin is the only character outside ASCII with a small
letter in it (`lowerAfter_eq_toLowerAscii`). So no modifier is counted as a redirect: a token with
that name would have been read as one (`Term.modifierName?_ne_redirect`).
-/

namespace SenderPolicy

/-! ## Small letters in ASCII -/

/-- A character of ASCII other than the letter k. -/
def IsPlain (c : CodePoint) : Prop := c.toNat < 0x80 ∧ c ≠ .char 'k'

/-- The small letters of the capital ones outside ASCII are outside it too, but for the sign for
kelvin. -/
theorem capitalRuns_target : ∀ r ∈ capitalRuns,
    (0x80 ≤ r.target ∨ r.first = r.last ∧ r.target = 0x6B) ∧
      r.target + (r.last - r.first) < 0x110000 := by
  decide +kernel

/-- A character with a plain small letter is in ASCII. -/
theorem toNat_lt_of_isPlain_lowerChar {c : CodePoint} (h : IsPlain (lowerChar c)) :
    c.toNat < 0x80 := by
  refine Decidable.byContradiction fun hc => ?_
  obtain ⟨hlow, hk⟩ := h
  unfold lowerChar at hlow hk
  rw [if_neg hc] at hlow hk
  split at hlow
  · rename_i n hn
    obtain ⟨r, hr, himage⟩ := List.exists_of_findSome?_eq_some hn
    obtain ⟨htarget, hbound⟩ := capitalRuns_target r hr
    unfold CaseRun.image? at himage
    split at himage
    · rename_i hrange
      have hn' : r.target + (c.toNat - r.first) = n := Option.some.inj himage
      rw [CodePoint.toNat_ofNat (by omega)] at hlow
      obtain hhigh | ⟨hone, hkelvin⟩ := htarget
      · omega
      · -- The only letter of the run is the sign for kelvin.
        have hn'' : n = 0x6B := by omega
        exact hk (by rw [hn, hn'']; rfl)
    · cases himage
  · exact hc hlow

/-- The lower case of a text that is not empty begins with some character. It is plain only if the
text begins with a character of ASCII that has it as its small letter, or with the capital I with a
dot, which leaves the dot. -/
theorem exists_lowerAfter_cons (before rest : Text) (c : CodePoint) :
    ∃ d lowered, lowerAfter before (c :: rest) = d :: lowered ∧ (IsPlain d →
      (c.toNat < 0x80 ∧ d = c.toLower ∧ lowered = lowerAfter (c :: before) rest) ∨
        d = .char 'i' ∧ lowered.head? = some (.char '\u0307')) := by
  rw [lowerAfter]
  split
  · exact ⟨_, _, rfl, fun _ => .inr ⟨rfl, rfl⟩⟩
  · split
    · refine ⟨_, _, rfl, fun hd => ?_⟩
      exact absurd hd.1 (by decide)
    · refine ⟨_, _, rfl, fun hd => .inl ?_⟩
      have hc := toNat_lt_of_isPlain_lowerChar hd
      exact ⟨hc, if_pos hc, rfl⟩

/-- The full lower case of a text is that of its ASCII letters, if it is plain. -/
theorem lowerAfter_eq_toLowerAscii {before s : Text} (h : ∀ c ∈ lowerAfter before s, IsPlain c) :
    lowerAfter before s = Text.toLowerAscii s := by
  induction s generalizing before with
  | nil => rfl
  | cons c rest ih =>
    obtain ⟨d, lowered, hlower, hcases⟩ := exists_lowerAfter_cons before rest c
    rw [hlower] at h ⊢
    have hlowered : ∀ c ∈ lowered, IsPlain c := fun c hc => h c (List.mem_cons_of_mem _ hc)
    obtain ⟨-, rfl, rfl⟩ | ⟨-, hdot⟩ := hcases (h d List.mem_cons_self)
    · rw [ih hlowered]
      rfl
    · exact absurd (hlowered _ (List.mem_of_head? hdot)).1 (by decide)

/-! ## Redirects -/

/-- A text holds a code point right after what stands before it, or not at all. -/
theorem Text.eq_before_append (c : CodePoint) (s : Text) :
    (s = Text.before c s ∧ c ∉ s) ∨ ∃ v, s = Text.before c s ++ c :: v := by
  induction s with
  | nil => exact .inl ⟨rfl, List.not_mem_nil⟩
  | cons d rest ih =>
    by_cases hd : d = c
    · subst hd
      exact .inr ⟨rest, by simp [Text.before]⟩
    · have hcons : Text.before c (d :: rest) = d :: Text.before c rest := by simp [Text.before, hd]
      rw [hcons]
      obtain ⟨hrest, hmem⟩ | ⟨v, hv⟩ := ih
      · exact .inl ⟨congrArg (d :: ·) hrest, by simp [hmem, Ne.symm hd]⟩
      · exact .inr ⟨v, congrArg (d :: ·) hv⟩

/-- What stands before a code point and does not hold it is the text before its first place. -/
theorem Text.before_append {c : CodePoint} {word v : Text} (h : c ∉ word) :
    before c (word ++ c :: v) = word := by
  refine takeWhile_append_of_head? (fun d hd => ?_) (by simp)
  have hne : d ≠ c := by
    rintro rfl
    exact h hd
  simpa using hne

/-- A body that begins with the keyword of a redirect is not read as a modifier. -/
theorem readBody_ne_modifier {q : Qualifier} {qualified : Bool} {body text : Text}
    (hword : Text.toLowerAscii (Text.before '=' body) = Keyword.redirect.text) :
    readBody q qualified body ≠ .ok (.modifier text) := by
  intro h
  unfold readBody at h
  obtain ⟨hbody, hequals⟩ | ⟨v, hv⟩ := Text.eq_before_append '=' body
  · -- No equals sign follows, so there is no term of the body at all.
    have hcut : Body.ofText body = ⟨some .redirect, []⟩ := by
      rw [hbody, ← List.append_nil (Text.before '=' body)]
      exact Body.ofText_append hword (by simp)
    rw [hcut] at h
    exact hequals (readModifier_eq_ok_iff.1 h).2.1
  · have hcut : Body.ofText body = ⟨some .redirect, .char '=' :: v⟩ := by
      rw [hv]
      exact Body.ofText_append hword (by simp [isDelimiter])
    simp only [hcut] at h
    split at h
    · cases h
    · cases (withValue_eq_ok_iff.1 h).2

/-- A modifier that was read is not named redirect. -/
theorem Term.modifierName?_ne_redirect {token : Text} {t : Term} (h : read token = .ok t) :
    t.modifierName? ≠ some Keyword.redirect.text := by
  obtain ⟨q, m, rfl, -⟩ | ⟨v, rfl, -⟩ | ⟨rfl, hbody⟩ := read_eq_ok_cases h
  · simp [modifierName?]
  · simp [modifierName?]
  · intro hname
    have hlower : Text.lower (Text.before '=' token) = Keyword.redirect.text :=
      Option.some.inj hname
    have hplain : ∀ c ∈ Text.lower (Text.before '=' token), IsPlain c := by
      rw [hlower]
      unfold IsPlain
      decide
    have hword : Text.toLowerAscii (Text.before '=' token) = Keyword.redirect.text :=
      (lowerAfter_eq_toLowerAscii hplain).symm.trans hlower
    exact readBody_ne_modifier hword hbody

end SenderPolicy
