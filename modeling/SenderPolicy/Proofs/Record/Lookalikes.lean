import SenderPolicy.Proofs.Record.Isolation
import SenderPolicy.Proofs.Term.Spelling
import SenderPolicy.Proofs.Text.Ascii

/-!
# Characters that look like those of ASCII

The lengths of a target and the name of a modifier have a form that speaks of digits and letters.
The form has the class of the digits and that of the letters as parameters (`Term.HasForm`): records
are read with the decimal digits of every script, and with four letters outside ASCII besides those
in it. So a term that is read is of the form in ASCII if and only if the part of it that the form
speaks of is in ASCII. `records_have_form` says so of every term of every record, and that a record
with any other spelling of a length or of a name is not well formed.
-/

namespace SenderPolicy

/-! ## Forms -/

/-- One or more digits of a class that stand for a number up to a bound. -/
def IsLengthOf (digit : CodePoint → Bool) (bound : Nat) (ds : Text) : Prop :=
  ds ≠ [] ∧ (∀ c ∈ ds, digit c = true) ∧ decimalValue ds ≤ bound

/-- Every length that is there is in digits of a class and within its bound. -/
structure Lengths.HasForm (digit : CodePoint → Bool) (l : Lengths) : Prop where
  /-- The IPv4 length is at most 32. -/
  v4 : ∀ ds ∈ l.v4, IsLengthOf digit Network.V4.width ds
  /-- The IPv6 length is at most 128. -/
  v6 : ∀ ds ∈ l.v6, IsLengthOf digit Network.V6.width ds

/-- A host without a slash, and the lengths after it: nothing, `/n`, `//m` or `/n//m`. -/
def IsTargetOf (digit : CodePoint → Bool) (target : Text) : Prop :=
  ∃ (host : Text) (l : Lengths), target = host ++ l.written ∧ .char '/' ∉ host ∧ l.HasForm digit

/-- A letter of a class, followed by letters of the class, digits of ASCII, hyphens, low lines and
dots. -/
def IsModifierNameOf (letter : CodePoint → Bool) (name : Text) : Prop :=
  ∃ (c : CodePoint) (rest : Text), name = c :: rest ∧ letter c = true ∧
    ∀ d ∈ rest, letter d = true ∨ d.isDigit = true ∨ d = '-' ∨ d = '_' ∨ d = '.'

/-- The target of an address mechanism and the name of a modifier are of their forms. -/
def Term.HasForm (digit letter : CodePoint → Bool) : Term → Prop
  | .mechanism _ (.a target) | .mechanism _ (.mx target) => IsTargetOf digit target
  | .modifier text => IsModifierNameOf letter (Text.before '=' text)
  | _ => True

/-- The part of a term that its form speaks of: the lengths of a target, from the first slash on,
and the name of a modifier. -/
def Term.formal : Term → Text
  | .mechanism _ (.a target) | .mechanism _ (.mx target) => target.dropWhile (· ≠ .char '/')
  | .modifier text => Text.before '=' text
  | _ => []

/-! ## Targets and names -/

section Target

variable {l : Lengths} {target name : Text}

/-- The lengths of a target begin at its first slash. -/
theorem Lengths.dropWhile_written {host : Text} (h : .char '/' ∉ host) :
    (host ++ l.written).dropWhile (· ≠ .char '/') = l.written := by
  refine dropWhile_append_of_head? (fun c hc => ?_) fun c hc => ?_
  · have hne : c ≠ .char '/' := by
      rintro rfl
      exact h hc
    simpa using hne
  · obtain ⟨v4, v6⟩ := l
    cases v4 <;> cases v6 <;> simp_all [written]

/-- A length in digits of ASCII is one in decimal digits. -/
theorem IsLengthOf.decimal {bound : Nat} {ds : Text} (h : IsLengthOf CodePoint.isDigit bound ds) :
    IsLengthOf isDecimalDigit bound ds :=
  ⟨h.1, fun c hc => (isDigit_iff_isDecimalDigit.1 (h.2.1 c hc)).1, h.2.2⟩

/-- A length in decimal digits is in digits of ASCII if and only if it is in ASCII. -/
theorem IsLengthOf.isDigit_iff {bound : Nat} {ds : Text} (h : IsLengthOf isDecimalDigit bound ds) :
    IsLengthOf CodePoint.isDigit bound ds ↔ ∀ c ∈ ds, c.toNat < 0x80 := by
  obtain ⟨hne, hdigit, hbound⟩ := h
  constructor
  · rintro ⟨-, hascii, -⟩ c hc
    exact (isDigit_iff_isDecimalDigit.1 (hascii c hc)).2
  · intro hascii
    exact ⟨hne, fun c hc => isDigit_iff_isDecimalDigit.2 ⟨hdigit c hc, hascii c hc⟩, hbound⟩

/-- Lengths in digits of ASCII are in decimal digits. -/
theorem Lengths.HasForm.decimal (h : l.HasForm CodePoint.isDigit) : l.HasForm isDecimalDigit where
  v4 ds hds := (h.v4 ds hds).decimal
  v6 ds hds := (h.v6 ds hds).decimal

/-- Lengths in decimal digits are in digits of ASCII if and only if they are written in ASCII. -/
theorem Lengths.HasForm.isDigit_iff (h : l.HasForm isDecimalDigit) :
    l.HasForm CodePoint.isDigit ↔ ∀ c ∈ l.written, c.toNat < 0x80 := by
  have hwritten : (∀ c ∈ l.written, c.toNat < 0x80) ↔
      (∀ ds ∈ l.v4, ∀ c ∈ ds, c.toNat < 0x80) ∧ ∀ ds ∈ l.v6, ∀ c ∈ ds, c.toNat < 0x80 := by
    have hslash : (CodePoint.char '/').toNat < 0x80 := by decide
    obtain ⟨v4, v6⟩ := l
    cases v4 <;> cases v6 <;> simp [written, hslash, or_imp, forall_and]
  rw [hwritten]
  constructor
  · rintro ⟨h4, h6⟩
    exact ⟨fun ds hds => (h.v4 ds hds).isDigit_iff.1 (h4 ds hds),
      fun ds hds => (h.v6 ds hds).isDigit_iff.1 (h6 ds hds)⟩
  · rintro ⟨h4, h6⟩
    exact ⟨fun ds hds => (h.v4 ds hds).isDigit_iff.2 (h4 ds hds),
      fun ds hds => (h.v6 ds hds).isDigit_iff.2 (h6 ds hds)⟩

/-- A target with decimal digits has digits of ASCII if and only if its lengths are in ASCII. -/
theorem IsTargetOf.isDigit_iff (h : IsTargetOf isDecimalDigit target) :
    IsTargetOf CodePoint.isDigit target ↔
      ∀ c ∈ target.dropWhile (· ≠ .char '/'), c.toNat < 0x80 := by
  constructor
  · rintro ⟨host, l, rfl, hhost, hl⟩
    rw [Lengths.dropWhile_written hhost]
    exact hl.decimal.isDigit_iff.1 hl
  · obtain ⟨host, l, rfl, hhost, hl⟩ := h
    rw [Lengths.dropWhile_written hhost]
    exact fun hascii => ⟨host, l, rfl, hhost, hl.isDigit_iff.2 hascii⟩

/-- A target of the grammar without a line feed is of the form with decimal digits. -/
theorem IsTarget.isTargetOf (h : IsTarget target) (hfeed : .char '\n' ∉ target) :
    IsTargetOf isDecimalDigit target := by
  obtain ⟨host, l, final, rfl, hhost, hnumeric, hwithin, rfl | rfl⟩ := h
  · rw [List.append_nil]
    exact ⟨host, l, rfl, hhost,
      fun ds hds => ⟨(hnumeric.v4 ds hds).1, (hnumeric.v4 ds hds).2, (hwithin.v4 ds hds).2⟩,
      fun ds hds => ⟨(hnumeric.v6 ds hds).1, (hnumeric.v6 ds hds).2, (hwithin.v6 ds hds).2⟩⟩
  · exact absurd (by simp) hfeed

/-- A name with Latin letters is one with letters of ASCII if and only if it is in ASCII. -/
theorem IsModifierNameOf.isAlpha_iff (h : IsModifierNameOf isLatinLetter name) :
    IsModifierNameOf CodePoint.isAlpha name ↔ ∀ c ∈ name, c.toNat < 0x80 := by
  have hother : ∀ c : CodePoint, c.isDigit = true ∨ c = '-' ∨ c = '_' ∨ c = '.' →
      c.toNat < 0x80 := by
    rintro c (hc | rfl | rfl | rfl)
    · exact (isDigit_iff_isDecimalDigit.1 hc).2
    all_goals decide
  constructor
  · rintro ⟨c, rest, rfl, hc, hrest⟩ d hd
    rcases List.mem_cons.1 hd with rfl | hd
    · exact (isAlpha_iff_isLatinLetter.1 hc).2
    · rcases hrest d hd with hletter | hd
      · exact (isAlpha_iff_isLatinLetter.1 hletter).2
      · exact hother d hd
  · obtain ⟨c, rest, rfl, hc, hrest⟩ := h
    intro hascii
    refine ⟨c, rest, rfl, isAlpha_iff_isLatinLetter.2 ⟨hc, hascii c List.mem_cons_self⟩,
      fun d hd => (hrest d hd).imp_left fun hletter => ?_⟩
    exact isAlpha_iff_isLatinLetter.2 ⟨hletter, hascii d (List.mem_cons_of_mem _ hd)⟩

/-- A name of a modifier without a line feed is of the form with Latin letters. -/
theorem isModifierNameOf_of_isModifierName (h : isModifierName name = true)
    (hfeed : .char '\n' ∉ name) : IsModifierNameOf isLatinLetter name := by
  obtain ⟨c, rest, rfl, hc, hrest⟩ := exists_eq_of_isModifierName h
  refine ⟨c, rest, rfl, hc, fun d hd => ?_⟩
  obtain hd' | rfl := hrest d hd
  · simp only [isNameChar, isLatinAlnum, Bool.or_eq_true, decide_eq_true_eq] at hd'
    rcases hd' with (((hletter | hdigit) | hline) | hdot) | hhyphen
    · exact .inl hletter
    · exact .inr (.inl hdigit)
    · exact .inr (.inr (.inr (.inl hline)))
    · exact .inr (.inr (.inr (.inr hdot)))
    · exact .inr (.inr (.inl hhyphen))
  · exact absurd (List.mem_cons_of_mem _ hd) hfeed

/-- The keyword of a redirect is of the form of a name. -/
theorem isModifierNameOf_redirect {word : Text}
    (hw : Text.toLowerAscii word = Keyword.redirect.text) :
    IsModifierNameOf isLatinLetter word := by
  have hsmall : ∀ n : Fin 0x80, (CodePoint.ofNat n).toLower.isAlpha = true →
      isLatinLetter (CodePoint.ofNat n) = true := by
    decide +kernel
  have hletter : ∀ c ∈ word, isLatinLetter c = true := by
    intro c hc
    have hkeyword : ∀ d ∈ Keyword.redirect.text, d.isAlpha = true := by decide
    have halpha := hsmall ⟨c.toNat, Keyword.toNat_lt_of_mem_word hw c hc⟩
    rw [CodePoint.ofNat_toNat] at halpha
    exact halpha (hkeyword _ (hw ▸ List.mem_map_of_mem hc))
  obtain ⟨c, rest, rfl, -⟩ := Keyword.exists_word_eq_cons hw
  exact ⟨c, rest, rfl, hletter c List.mem_cons_self,
    fun d hd => .inl (hletter d (List.mem_cons_of_mem _ hd))⟩

end Target

/-! ## Terms and tokens -/

section Tokens

variable {token : Text} {t : Term}

/-- The term of a token without a line feed is of its form, with decimal digits and Latin
letters. -/
theorem Term.IsSpelled.hasForm (h : t.IsSpelled token) (hfeed : .char '\n' ∉ token) :
    t.HasForm isDecimalDigit isLatinLetter := by
  cases h with
  | @mechanism q m sign word rest hs hw hm =>
    have hrest : .char '\n' ∉ rest := fun hc =>
      hfeed (List.mem_append_right _ (List.mem_append_right _ hc))
    cases hm with
    | all | ptr | ip4 | ip6 => trivial
    | domain hm hv => rcases hm with rfl | rfl | rfl <;> trivial
    | noTarget hm =>
      have hempty : IsTargetOf isDecimalDigit [] :=
        ⟨[], ⟨none, none⟩, rfl, by simp, by simp, by simp⟩
      rcases hm with rfl | rfl <;> exact hempty
    | target hm hv ht =>
      have htarget := ht.isTargetOf fun hc => hrest (List.mem_cons_of_mem _ hc)
      rcases hm with rfl | rfl <;> exact htarget
    | lengths hm ht =>
      have htarget := ht.isTargetOf hrest
      rcases hm with rfl | rfl <;> exact htarget
  | redirect => trivial
  | @modifier word v hn hw =>
    have hequals : .char '=' ∉ word := fun hc =>
      absurd (isDelimiter_of_mem_name hn _ hc) (by decide)
    show IsModifierNameOf isLatinLetter (Text.before '=' (word ++ .char '=' :: v))
    rw [Text.before_append hequals]
    exact isModifierNameOf_of_isModifierName hn fun hc => hfeed (List.mem_append_left _ hc)

/-- A term with decimal digits and Latin letters has those of ASCII if and only if its lengths or
its name are in ASCII. -/
theorem Term.HasForm.ascii_iff (h : t.HasForm isDecimalDigit isLatinLetter) :
    t.HasForm CodePoint.isDigit CodePoint.isAlpha ↔ ∀ c ∈ t.formal, c.toNat < 0x80 := by
  rcases t with _ | ⟨q, _ | v | v | v | v | v | v | v⟩ | v | text
  case mechanism.a | mechanism.mx => exact IsTargetOf.isDigit_iff h
  case modifier => exact IsModifierNameOf.isAlpha_iff h
  all_goals simp [HasForm, formal]

/-- The tokens of address mechanisms whose target is not of the form, and those that hold an equals
sign behind what is no name and are not of a mechanism. -/
def Term.IsMisspelled (token : Text) : Prop :=
  (∃ (q : Qualifier) (k : Keyword) (v : Text), (k = .a ∨ k = .mx) ∧
      (IsComposed q k (.char ':' :: v) token ∨
        IsComposed q k v token ∧ v.head? = some (.char '/')) ∧
      ¬ IsTargetOf isDecimalDigit v) ∨
    .char '=' ∈ token ∧ ¬ IsModifierNameOf isLatinLetter (Text.before '=' token) ∧
      ¬ ∃ (q : Qualifier) (m : Mechanism), (Term.mechanism q m).IsSpelled token

/-- A misspelled token without a line feed is not read as a term. -/
theorem Term.IsMisspelled.read_ne (h : IsMisspelled token) (hfeed : .char '\n' ∉ token) :
    read token ≠ .ok t := by
  intro hread
  rcases h with ⟨q, k, v, hk, hcomposed, hv⟩ | ⟨-, hname, hmechanism⟩
  · obtain ⟨m, hm, rfl⟩ := exists_address_of_keyword hk
    rcases hcomposed with hcomposed | ⟨hcomposed, hslash⟩
    · rw [read_colon hm hcomposed] at hread
      obtain ⟨hcheck, -⟩ := withTarget_eq_ok_iff.1 (withValue_eq_ok_iff.1 hread).2
      exact hv ((checkLengths_eq_ok_iff.1 hcheck).isTargetOf fun hc =>
        hfeed (hcomposed.mem (List.mem_cons_of_mem _ hc)))
    · obtain ⟨v, rfl⟩ := List.head?_eq_some_iff.1 hslash
      rw [read_slash hm hcomposed] at hread
      obtain ⟨hcheck, -⟩ := withTarget_eq_ok_iff.1 hread
      exact hv ((checkLengths_eq_ok_iff.1 hcheck).isTargetOf fun hc => hfeed (hcomposed.mem hc))
  · cases read_eq_ok_iff.1 hread with
    | mechanism hs hw hm => exact hmechanism ⟨_, _, .mechanism hs hw hm⟩
    | @redirect word v hw hv =>
      have hequals : .char '=' ∉ word := fun hc =>
        absurd (isDelimiter_of_mem_word hw hc) (by decide)
      rw [Text.before_append hequals] at hname
      exact hname (isModifierNameOf_redirect hw)
    | modifier hn hw =>
      have hform : HasForm isDecimalDigit isLatinLetter (.modifier _) :=
        (read_eq_ok_iff.1 hread).hasForm hfeed
      exact hname hform

end Tokens

/-- The lengths of the address mechanisms in a record are numbers within their bounds, and the names
of its modifiers are names, where digits of every script and four letters outside ASCII count as
well. They are in digits and letters of ASCII if and only if the lengths and names hold no character
outside ASCII. A record with any other spelling of a length or a name is not well formed. -/
theorem records_have_form {raw domain : Text} {r : Record} (h : Record.read raw domain = .ok r) :
    (∀ t ∈ r.terms, t.HasForm isDecimalDigit isLatinLetter ∧
      (t.HasForm CodePoint.isDigit CodePoint.isAlpha ↔ ∀ c ∈ t.formal, c.toNat < 0x80)) ∧
    ((∃ token ∈ Record.tokens raw, Term.IsMisspelled token) → r.isWellFormed = false) := by
  have hfeed : ∀ {token : Text}, Text.IsWord token → .char '\n' ∉ token := by
    intro token hword hc
    exact absurd (hword.2 _ hc) (by decide)
  by_cases hraw : isSpfRecord raw = true
  · constructor
    · obtain ⟨ts, hterms, hts⟩ := Record.exists_terms_eq hraw h
      intro t ht
      rw [hterms] at ht
      have hform : t.HasForm isDecimalDigit isLatinLetter := by
        rcases List.mem_cons.1 ht with rfl | ht
        · trivial
        · obtain ⟨token, hword, hread⟩ := hts t ht
          exact (Term.read_eq_ok_iff.1 hread).hasForm (hfeed hword)
      exact ⟨hform, hform.ascii_iff⟩
    · rintro ⟨token, htoken, hmisspelled⟩
      rw [← Bool.not_eq_true, Record.isWellFormed_iff_termsOf hraw h]
      rintro ⟨hall, -⟩
      obtain ⟨t, ht⟩ := isTerm_iff.1 (hall token htoken)
      exact hmisspelled.read_ne (hfeed (Text.isWord_of_mem_words htoken)) ht
  · -- Without the version tag there are no terms, and the record is not well formed.
    have hnone : Record.read raw domain = .ok ⟨raw, domain, [], some .noVersion⟩ := if_neg hraw
    rw [hnone] at h
    cases h
    exact ⟨fun t ht => (List.not_mem_nil ht).elim, fun _ => rfl⟩

/-- A record whose lengths and names are in ASCII, and one that a name with a digit in front
spoils. -/
theorem plainRecord_has_form :
    (∀ t ∈ ([.version, .mechanism .pass (.a "mail/24//64"), .modifier "Foo-1=b"] : List Term),
      t.HasForm CodePoint.isDigit CodePoint.isAlpha) ∧
      ∃ r, Record.read "v=spf1 1x=y -all" "example.com" = .ok r ∧ r.isWellFormed = false := by
  have hread : Record.read "v=spf1 a:mail/24//64 Foo-1=b" "example.com" =
      .ok ⟨"v=spf1 a:mail/24//64 Foo-1=b", "example.com",
        [.version, .mechanism .pass (.a "mail/24//64"), .modifier "Foo-1=b"], none⟩ := rfl
  have hread' : Record.read "v=spf1 1x=y -all" "example.com" =
      .ok ⟨"v=spf1 1x=y -all", "example.com", [.version, .mechanism .fail .all],
        some (.malformed "1x=y" .badModifierName)⟩ := rfl
  have hascii : ∀ t ∈ ([.version, .mechanism .pass (.a "mail/24//64"), .modifier "Foo-1=b"] :
      List Term), ∀ c ∈ t.formal, c.toNat < 0x80 := by
    decide
  refine ⟨fun t ht => (((records_have_form hread).1 t ht).2).2 (hascii t ht), _, hread',
    (records_have_form hread').2 ⟨"1x=y", by decide, .inr ⟨by decide, ?_, ?_⟩⟩⟩
  · rintro ⟨c, rest, hname, hc, -⟩
    obtain ⟨rfl, -⟩ := List.cons.inj hname
    exact absurd hc (by decide)
  · rintro ⟨q, m, hspelled⟩
    have hok := Term.read_eq_ok_iff.2 hspelled
    cases hok

/-- Digits of another script are accepted in a length, and the long s in a name. -/
theorem lookalikes_accepted :
    (∃ r, Record.read "v=spf1 a/\u0662\u0664 -all" "example.com" = .ok r ∧ r.isWellFormed = true ∧
      ∃ t ∈ r.terms, ¬ t.HasForm CodePoint.isDigit CodePoint.isAlpha) ∧
    ∃ r, Record.read "v=spf1 \u017fp=x -all" "example.com" = .ok r ∧ r.isWellFormed = true ∧
      ∃ t ∈ r.terms, ¬ t.HasForm CodePoint.isDigit CodePoint.isAlpha := by
  constructor
  · have hread : Term.read "a/\u0662\u0664" = .ok (.mechanism .pass (.a "/\u0662\u0664")) := rfl
    have hform := (Term.read_eq_ok_iff.1 hread).hasForm (by decide)
    refine ⟨⟨_, _, [.version, .mechanism .pass (.a "/\u0662\u0664"), .mechanism .fail .all], none⟩,
      rfl, rfl, _, List.mem_cons_of_mem _ List.mem_cons_self, fun h => ?_⟩
    exact absurd (hform.ascii_iff.1 h) (by decide)
  · have hread : Term.read "\u017fp=x" = .ok (.modifier "\u017fp=x") := rfl
    have hform := (Term.read_eq_ok_iff.1 hread).hasForm (by decide)
    refine ⟨⟨_, _, [.version, .modifier "\u017fp=x", .mechanism .fail .all], none⟩,
      rfl, rfl, _, List.mem_cons_of_mem _ List.mem_cons_self, fun h => ?_⟩
    exact absurd (hform.ascii_iff.1 h) (by decide)

end SenderPolicy
