import SenderPolicy.Proofs.Record.RoundTrip
import SenderPolicy.Proofs.Term.TestOrder

/-!
# Faults of a record are isolated

What a token of a record says is not changed by malformed tokens beside it: the terms of a record
are those of its tokens that are terms, and a malformed token is as good as none. A token is at
fault if it is malformed, or if it is the second redirect or the second explanation. So the fault of
a token depends on the tokens before it, but not on those after it (`fault?`), and the diagnostic of
a record is the fault of the earliest token that is at fault (`diagnostic_eq_some_iff`). More text
behind a record therefore only adds terms and leaves its diagnostic as it is.

A reading keeps the names that it has seen, not the tokens. `repetition_eq` carries the one over to
the other: a name that may stand once has been seen as often as there are terms of that name.
-/

namespace SenderPolicy

/-! ## The earliest item -/

/-- Something is found at an item of a list, given the items before it, and nothing at any of
those. -/
def IsEarliest {α β : Type} (find : List α → α → Option β) (items : List α) (y : β) : Prop :=
  ∃ before x after, items = before ++ x :: after ∧ find before x = some y ∧
    ∀ before' x' after', before = before' ++ x' :: after' → find before' x' = none

section Earliest

variable {α β : Type} {find : List α → α → Option β} {x : α} {items : List α} {y : β}

/-- In an empty list nothing is found. -/
theorem not_isEarliest_nil : ¬ IsEarliest find [] y := by
  rintro ⟨before, x, after, hitems, -⟩
  exact List.append_ne_nil_of_right_ne_nil before (List.cons_ne_nil x after) hitems.symm

/-- What is found first is found at the first item, or else at an item after it. -/
theorem isEarliest_cons : IsEarliest find (x :: items) y ↔
    find [] x = some y ∨
      find [] x = none ∧ IsEarliest (fun before => find (x :: before)) items y := by
  constructor
  · rintro ⟨before, x', after, hitems, hfind, hnone⟩
    cases before with
    | nil =>
      obtain ⟨rfl, -⟩ := List.cons.inj hitems
      exact .inl hfind
    | cons x₀ before =>
      obtain ⟨rfl, rfl⟩ := List.cons.inj hitems
      refine .inr ⟨hnone [] x before rfl, before, x', after, rfl, hfind, ?_⟩
      intro before' x'' after' hbefore
      exact hnone (x :: before') x'' after' (by rw [hbefore, List.cons_append])
  · rintro (hfind | ⟨hfirst, before, x', after, rfl, hfind, hnone⟩)
    · refine ⟨[], x, items, rfl, hfind, ?_⟩
      intro before' x' after' hbefore
      exact absurd hbefore.symm
        (List.append_ne_nil_of_right_ne_nil before' (List.cons_ne_nil x' after'))
    · refine ⟨x :: before, x', after, rfl, hfind, ?_⟩
      intro before' x'' after' hbefore
      cases before' with
      | nil =>
        obtain ⟨rfl, -⟩ := List.cons.inj hbefore
        exact hfirst
      | cons x₀ before' =>
        obtain ⟨rfl, hrest⟩ := List.cons.inj hbefore
        exact hnone before' x'' after' hrest

/-- What is found first is found first in a longer list too. -/
theorem IsEarliest.append (h : IsEarliest find items y) (more : List α) :
    IsEarliest find (items ++ more) y := by
  obtain ⟨before, x, after, rfl, hfind, hnone⟩ := h
  exact ⟨before, x, after ++ more, by simp, hfind, hnone⟩

end Earliest

/-! ## Faults of tokens -/

/-- Whether a token is a term. -/
def isTerm (token : Text) : Bool := (Term.read token).toOption.isSome

/-- The terms of the tokens that are terms, in their order. -/
def termsOf (tokens : List Text) : List Term :=
  tokens.filterMap fun token => (Term.read token).toOption

/-- What is wrong with a token that stands after others: it is malformed, or the second redirect, or
the second explanation. -/
def fault? (before : List Text) (token : Text) : Option Diagnostic :=
  match Term.read token with
  | .error (.malformed m) => some (.malformed token m)
  | .error _ => none
  | .ok t =>
    if t.isRedirect && (termsOf before).countP Term.isRedirect = 1 then
      some (.repeated "redirect")
    else if t.isExplanation && (termsOf before).countP Term.isExplanation = 1 then
      some (.repeated "exp")
    else none

/-- A token is a term if it is read as one. -/
theorem isTerm_iff {token : Text} : isTerm token = true ↔ ∃ t, Term.read token = .ok t := by
  unfold isTerm
  cases Term.read token <;> simp [Except.toOption]

/-- Tokens that are no terms add none. -/
theorem termsOf_filter (tokens : List Text) : termsOf (tokens.filter isTerm) = termsOf tokens := by
  unfold termsOf
  rw [List.filterMap_filter]
  refine List.filterMap_congr fun token _ => ?_
  unfold isTerm
  cases (Term.read token).toOption <;> rfl

/-- Terms come from the ones of the tokens and then from the others. -/
theorem termsOf_append (tokens tokens' : List Text) :
    termsOf (tokens ++ tokens') = termsOf tokens ++ termsOf tokens' := List.filterMap_append

/-- The terms of tokens were read from them. -/
theorem exists_read_of_mem_termsOf {tokens : List Text} {t : Term} (h : t ∈ termsOf tokens) :
    ∃ token, Term.read token = .ok t := by
  obtain ⟨token, -, hread⟩ := List.mem_filterMap.1 h
  refine ⟨token, ?_⟩
  cases hok : Term.read token with
  | error e => rw [hok] at hread; cases hread
  | ok t' => rw [hok] at hread; exact congrArg _ (Option.some.inj hread)

/-- The names of the terms of tokens are those under which the terms are counted. -/
theorem countedNames_eq (tokens : List Text) :
    Reading.countedNames tokens = (termsOf tokens).filterMap Term.countedName? := by
  rw [termsOf, List.filterMap_filterMap]
  rfl

/-- Names have been seen of the terms of tokens, in any order. -/
def SeenIn (seen tokens : List Text) : Prop :=
  ∀ name, seen.count name = (Reading.countedNames tokens).count name

/-- A term adds its name to those that were seen. -/
theorem SeenIn.concat {seen tokens : List Text} (h : SeenIn seen tokens) {token : Text} {t : Term}
    (ht : Term.read token = .ok t) :
    SeenIn (t.countedName?.toList ++ seen) (tokens ++ [token]) := by
  have hnames : Reading.countedNames (tokens ++ [token]) =
      Reading.countedNames tokens ++ t.countedName?.toList := by
    rw [Reading.countedNames, List.filterMap_append, ← Reading.countedNames,
      ← Reading.countedNames, Reading.countedNames_cons ht]
    exact congrArg _ (List.append_nil _)
  intro name
  rw [hnames, List.count_append, List.count_append, h name, Nat.add_comm]

/-- A term is a repetition, given the names that were seen, if its token is at fault after the
tokens of which they were seen. -/
theorem repetition_eq {seen before : List Text} (hseen : SeenIn seen before) {token : Text}
    {t : Term} (ht : Term.read token = .ok t) :
    Reading.repetition seen t = (fault? before token).toList := by
  have hredirects : seen.count Keyword.redirect.text = (termsOf before).countP Term.isRedirect := by
    rw [hseen, countedNames_eq,
      Record.count_redirect_countedNames fun _ => exists_read_of_mem_termsOf]
  have hexplanations : seen.count ("exp" : Text) = (termsOf before).countP Term.isExplanation := by
    rw [hseen, countedNames_eq, Record.count_exp_countedNames]
  have hredirect := Term.countedName?_eq_redirect_iff ht
  have hexplanation := Term.countedName?_eq_exp_iff t
  unfold fault?
  simp only [ht]
  by_cases hr : t.isRedirect = true
  · have hname := hredirect.2 hr
    have hnot : t.isExplanation = false := by
      refine Bool.eq_false_iff.2 fun he => ?_
      rw [hexplanation.2 he] at hname
      revert hname
      decide
    have hunique : uniqueModifiers.contains Keyword.redirect.text = true := by decide
    unfold Reading.repetition
    rw [hname]
    simp only [hunique, hredirects, hr, hnot, Bool.true_and, Bool.false_and, decide_eq_true_eq,
      Bool.false_eq_true, if_false]
    split <;> rfl
  · by_cases he : t.isExplanation = true
    · have hunique : uniqueModifiers.contains ("exp" : Text) = true := by decide
      unfold Reading.repetition
      rw [hexplanation.2 he]
      simp only [hunique, hexplanations, hr, he, Bool.true_and, Bool.false_and, decide_eq_true_eq,
        Bool.false_eq_true, if_false]
      split <;> rfl
    · -- A name of no modifier that may stand once can be repeated.
      have hnil : Reading.repetition seen t = [] := by
        rw [Reading.repetition_eq_nil_iff]
        intro name hname hunique
        simp only [uniqueModifiers, List.mem_cons, List.not_mem_nil, or_false] at hunique
        rcases hunique with rfl | rfl
        · exact absurd (hredirect.1 hname) hr
        · exact absurd (hexplanation.1 hname) he
      simp [hnil, hr, he]

/-- The first diagnostic of a reading is the fault of the earliest token that is at fault. -/
theorem head?_diagnostics_iff {seen passed tokens : List Text} {rd : Reading} {d : Diagnostic}
    (h : Reading.ofTokens seen tokens = .ok rd) (hseen : SeenIn seen passed) :
    rd.diagnostics.head? = some d ↔
      IsEarliest (fun before => fault? (passed ++ before)) tokens d := by
  induction tokens generalizing seen passed rd with
  | nil =>
    cases h
    simp [not_isEarliest_nil]
  | cons token tokens ih =>
    -- The tokens that are passed now include this one.
    have hpassed : (fun before => fault? (passed ++ [token] ++ before)) =
        fun before => fault? (passed ++ token :: before) := by
      funext before
      rw [List.append_assoc, List.singleton_append]
    rw [isEarliest_cons, List.append_nil, ← hpassed]
    obtain ⟨t, rest, ht, hr, rfl⟩ | ⟨m, rest, hm, hr, rfl⟩ :=
      Reading.ofTokens_cons_eq_ok_iff.1 h
    · rw [repetition_eq hseen ht, ← ih hr (hseen.concat ht)]
      cases fault? passed token <;> simp
    · have hfault : fault? passed token = some (.malformed token m) := by simp [fault?, hm]
      simp [hfault]

/-! ## Records -/

namespace Record

variable {raw domain : Text} {r : Record}

/-- A text is an SPF record if its first seven characters are the version tag, or the tag and a
space, in capital or small letters. -/
theorem isSpfRecord_iff {s : Text} : isSpfRecord s = true ↔
    Text.toLowerAscii (s.take 7) = versionTag ∨
      Text.toLowerAscii (s.take 7) = versionTag ++ (" " : Text) := by
  have hplain : ∀ c ∈ versionTag ++ (" " : Text), IsPlain c := by
    unfold IsPlain
    decide
  have htag := lower_eq_iff (s := s.take 7) fun c hc => hplain c (List.mem_append_left _ hc)
  rw [← htag, ← lower_eq_iff hplain]
  simp only [isSpfRecord, Bool.or_eq_true, decide_eq_true_eq]
  exact Iff.rfl

/-- An SPF record is at least as long as the version tag. -/
theorem length_tag_le (hraw : isSpfRecord raw = true) : versionTag.length ≤ raw.length := by
  have hlength : (Text.toLowerAscii (raw.take 7)).length ≤ raw.length := by
    rw [Text.toLowerAscii, List.length_map]
    exact List.length_take_le' 7 raw
  rcases isSpfRecord_iff.1 hraw with h | h
  · rwa [h] at hlength
  · rw [h, List.length_append] at hlength
    omega

/-- An SPF record with more text behind a space is an SPF record. -/
theorem isSpfRecord_append_space (hraw : isSpfRecord raw = true) (s : Text) :
    isSpfRecord (raw ++ (" " : Text) ++ s) = true := by
  have htag : versionTag.length = 6 := rfl
  have hle := length_tag_le hraw
  rw [List.append_assoc]
  by_cases hlong : 7 ≤ raw.length
  · -- The first seven characters are those of the record.
    rw [isSpfRecord_iff, List.take_append_of_le_length hlong]
    exact isSpfRecord_iff.1 hraw
  · -- The record is the version tag alone, which is followed by the space.
    have hsix : raw.length = 6 := by omega
    have htake : (raw ++ ((" " : Text) ++ s)).take 7 = raw ++ (" " : Text) := by
      rw [← List.append_assoc]
      exact List.take_left' (by simp [hsix, Text.ofString])
    have hraw' := isSpfRecord_iff.1 hraw
    rw [List.take_of_length_le (by omega)] at hraw'
    rw [isSpfRecord_iff, htake]
    right
    rw [Text.toLowerAscii, List.map_append, ← Text.toLowerAscii]
    rcases hraw' with h | h
    · rw [h]
      rfl
    · have hlength := congrArg List.length h
      rw [Text.toLowerAscii, List.length_map, hsix] at hlength
      cases hlength

/-- The words behind a space are tokens after those of the record. -/
theorem tokens_append_space (hraw : isSpfRecord raw = true) (s : Text) :
    tokens (raw ++ (" " : Text) ++ s) = tokens raw ++ Text.words s := by
  unfold tokens
  rw [List.append_assoc, List.drop_append_of_le_length (length_tag_le hraw), ← List.append_assoc,
    Text.words_space]

/-- The diagnostic of a record is the fault of the earliest token that is at fault. -/
theorem diagnostic_eq_some_iff (hraw : isSpfRecord raw = true) (h : read raw domain = .ok r)
    {d : Diagnostic} : r.diagnostic = some d ↔ IsEarliest fault? (tokens raw) d := by
  obtain ⟨rd, hrd, rfl⟩ := (read_eq_ok_iff hraw).1 h
  have hseen : SeenIn [] [] := fun _ => rfl
  exact head?_diagnostics_iff hrd hseen

/-- More text behind a space leaves the diagnostic of a record as it is and adds the terms of the
words in it. -/
theorem read_append_space (hraw : isSpfRecord raw = true) (h : read raw domain = .ok r) {s : Text}
    {domain' : Text} {r' : Record} (h' : read (raw ++ (" " : Text) ++ s) domain' = .ok r') :
    r'.terms = r.terms ++ termsOf (Text.words s) ∧
      ∀ d, r.diagnostic = some d → r'.diagnostic = some d := by
  have hraw' := isSpfRecord_append_space hraw s
  have hterms' : r'.terms = .version :: termsOf (tokens (raw ++ (" " : Text) ++ s)) :=
    terms_of_read hraw' h'
  have hterms : r.terms = .version :: termsOf (tokens raw) := terms_of_read hraw h
  constructor
  · rw [hterms', hterms, tokens_append_space hraw, termsOf_append, List.cons_append]
  · intro d hd
    rw [diagnostic_eq_some_iff hraw' h', tokens_append_space hraw]
    exact ((diagnostic_eq_some_iff hraw h).1 hd).append _

/-- What the reading of a record makes of its text, token by token. -/
structure IsReadingOf (raw : Text) (r : Record) : Prop where
  /-- The record has the version tag. -/
  hasVersion : r.hasVersion = true
  /-- The terms are the version tag and those of the tokens that are terms, in their order. -/
  terms_eq : r.terms = .version :: termsOf (tokens raw)
  /-- A record with the same tokens that are terms, and any others between, has the same terms. -/
  isolated (raw' domain' : Text) (r' : Record) : isSpfRecord raw' = true →
    read raw' domain' = .ok r' → (tokens raw').filter isTerm = (tokens raw).filter isTerm →
      r'.terms = r.terms
  /-- The record is well formed if every token is a term, at most one of them a redirect and at most
  one of them an explanation. -/
  isWellFormed_iff : r.isWellFormed = true ↔ (∀ token ∈ tokens raw, isTerm token = true) ∧
    (termsOf (tokens raw)).countP Term.isRedirect ≤ 1 ∧
    (termsOf (tokens raw)).countP Term.isExplanation ≤ 1
  /-- A record that is well formed has no diagnostic. -/
  diagnostic_eq_none_iff : r.diagnostic = none ↔ r.isWellFormed = true
  /-- The diagnostic is the fault of the earliest token that is at fault. -/
  diagnostic_iff (d : Diagnostic) : r.diagnostic = some d ↔ IsEarliest fault? (tokens raw) d
  /-- With more text behind a space it is a record still. -/
  appended (s : Text) : isSpfRecord (raw ++ (" " : Text) ++ s) = true
  /-- More text behind a space only adds terms, and changes no diagnostic. -/
  extended (s domain' : Text) (r' : Record) : read (raw ++ (" " : Text) ++ s) domain' = .ok r' →
    r.terms <+: r'.terms ∧ ∀ d, r.diagnostic = some d → r'.diagnostic = some d

/-- A record that is well formed is so by its tokens. -/
theorem isWellFormed_iff_termsOf (hraw : isSpfRecord raw = true) (h : read raw domain = .ok r) :
    r.isWellFormed = true ↔ (∀ token ∈ tokens raw, isTerm token = true) ∧
      (termsOf (tokens raw)).countP Term.isRedirect ≤ 1 ∧
      (termsOf (tokens raw)).countP Term.isExplanation ≤ 1 := by
  have hterms : r.terms = .version :: termsOf (tokens raw) := terms_of_read hraw h
  rw [isWellFormed_iff_counts hraw h, hterms, List.countP_cons_of_neg (by decide),
    List.countP_cons_of_neg (by decide)]
  simp only [isTerm_iff]

end Record

/-- Faults are isolated. An SPF record that can be read is read token by token: malformed tokens add
nothing and take nothing away, and the diagnostic is the fault of the earliest token that is at
fault. What is no SPF record is read as a record without terms and without the version tag. -/
theorem faults_isolated (raw domain : Text) :
    (∀ r, isSpfRecord raw = true → Record.read raw domain = .ok r → r.IsReadingOf raw) ∧
      (isSpfRecord raw = false → ∃ r, Record.read raw domain = .ok r ∧ r.terms = [] ∧
        r.hasVersion = false ∧ r.isWellFormed = false) := by
  constructor
  · intro r hraw h
    have hterms : r.terms = .version :: termsOf (Record.tokens raw) := Record.terms_of_read hraw h
    refine
      { hasVersion := Record.hasVersion_of_read hraw h
        terms_eq := hterms
        isolated := ?_
        isWellFormed_iff := Record.isWellFormed_iff_termsOf hraw h
        diagnostic_eq_none_iff := by simp [Record.isWellFormed]
        diagnostic_iff := fun d => Record.diagnostic_eq_some_iff hraw h
        appended := Record.isSpfRecord_append_space hraw
        extended := ?_ }
    · intro raw' domain' r' hraw' h' hsame
      have hterms' : r'.terms = .version :: termsOf (Record.tokens raw') :=
        Record.terms_of_read hraw' h'
      rw [hterms', hterms, ← termsOf_filter (Record.tokens raw'), hsame, termsOf_filter]
    · intro s domain' r' h'
      obtain ⟨hmore, hkept⟩ := Record.read_append_space hraw h h'
      exact ⟨⟨_, hmore.symm⟩, hkept⟩
  · intro hraw
    refine ⟨⟨raw, domain, [], some .noVersion⟩, ?_, rfl, rfl, rfl⟩
    unfold Record.read
    rw [hraw]
    rfl

/-- A record in which the first token that is at fault is a second explanation, in capital letters.
A malformed token and a second redirect follow it. -/
def repeatingRecord : Text := "v=spf1 Exp=a redirect=b EXP=c bogus redirect=d exp=e -all"

/-- The record has the terms of all its tokens but one. It keeps the diagnostic of the second
explanation when malformed text is added. A record of another version has no terms. -/
theorem repeatingRecord_isolated :
    (∃ r r' : Record, isSpfRecord repeatingRecord = true ∧
      Record.read repeatingRecord ("a" : Text) = .ok r ∧ r.IsReadingOf repeatingRecord ∧
      r.diagnostic = some (.repeated "exp") ∧ r.terms.length = 7 ∧
      Record.read (repeatingRecord ++ (" " : Text) ++ ("oops mx" : Text)) ("a" : Text) = .ok r' ∧
      r.terms <+: r'.terms ∧ r'.diagnostic = some (.repeated "exp")) ∧
      isSpfRecord "v=spf2 -all" = false ∧
        ∃ r, Record.read "v=spf2 -all" ("a" : Text) = .ok r ∧ r.terms = [] := by
  have hraw : isSpfRecord repeatingRecord = true := by decide +kernel
  have hother : isSpfRecord "v=spf2 -all" = false := by decide +kernel
  obtain ⟨r, hr, hfields⟩ : ∃ r, Record.read repeatingRecord ("a" : Text) = .ok r ∧
      (r.diagnostic, r.terms.length) = (some (.repeated "exp"), 7) :=
    exists_ok_of_map_toOption (fun r : Record => (r.diagnostic, r.terms.length))
      (by decide +kernel)
  obtain ⟨hdiagnostic, hlength⟩ := Prod.mk.inj hfields
  obtain ⟨r', hr', -⟩ : ∃ r', Record.read (repeatingRecord ++ (" " : Text) ++ ("oops mx" : Text))
      ("a" : Text) = .ok r' ∧ r'.terms.length = 8 :=
    exists_ok_of_map_toOption (fun r : Record => r.terms.length) (by decide +kernel)
  have hreading := (faults_isolated repeatingRecord "a").1 r hraw hr
  obtain ⟨hterms, hkept⟩ := hreading.extended "oops mx" "a" r' hr'
  obtain ⟨r₀, hr₀, hnone, -⟩ := (faults_isolated "v=spf2 -all" "a").2 hother
  exact ⟨⟨r, r', hraw, hr, hreading, hdiagnostic, hlength, hr', hterms, hkept _ hdiagnostic⟩,
    hother, r₀, hr₀, hnone⟩

end SenderPolicy
