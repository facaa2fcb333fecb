import SenderPolicy.Proofs.Term.Lengths

/-!
# Terms whose reading breaks off

Reading a token yields a term, or finds the token malformed, or breaks off. `Term.IsOversized` says
of the text of a token alone when its reading breaks off: it is an `a` or `mx` mechanism whose
lengths are oversized. `oversized_read_iff` shows this for every token, and
`read_ok_or_malformed_iff` that a token which is not empty is otherwise read as a term or found
malformed.
-/

namespace SenderPolicy

/-- A character is dropped from the end of a text if it stands there. -/
theorem Text.dropFinal_eq_iff {c : CodePoint} {s t : Text} :
    Text.dropFinal c s = t ↔ s = t ++ [c] ∨ s = t ∧ t.getLast? ≠ some c := by
  unfold Text.dropFinal
  split
  · rename_i hlast
    obtain ⟨init, rfl⟩ := List.getLast?_eq_some_iff.1 hlast
    rw [List.dropLast_concat]
    constructor
    · rintro rfl
      exact .inl rfl
    · rintro (heq | ⟨rfl, hne⟩)
      · exact List.append_cancel_right heq
      · exact absurd hlast hne
  · rename_i hlast
    constructor
    · rintro rfl
      exact .inr ⟨rfl, hlast⟩
    · rintro (rfl | ⟨rfl, -⟩)
      · exact absurd List.getLast?_concat hlast
      · rfl

/-! ## Targets -/

/-- Oversized lengths follow the host of a target. A line feed may stand at the very end. -/
def IsOversizedTarget (target : Text) : Prop :=
  ∃ (host : Text) (l : Lengths) (final : Text), target = host ++ (l.written ++ final) ∧
    .char '/' ∉ host ∧ l.IsNumeric ∧ l.IsOversized ∧ (final = [] ∨ final = [.char '\n'])

namespace Lengths

variable {l : Lengths}

/-- Lengths are written after a slash, if there are any. -/
theorem written_eq_nil_or (l : Lengths) :
    l.written = [] ∨ ∃ tail, l.written = .char '/' :: tail := by
  obtain ⟨_ | ds4, _ | ds6⟩ := l
  · exact .inl rfl
  · exact .inr ⟨_, rfl⟩
  · exact .inr ⟨_, rfl⟩
  · exact .inr ⟨_, rfl⟩

/-- Lengths end in a digit. -/
theorem isDecimalDigit_of_getLast?_written (h : l.IsNumeric) {c : CodePoint}
    (hc : l.written.getLast? = some c) : isDecimalDigit c = true := by
  have hrun : ∀ {ds s : Text}, IsDigitRun ds → (s ++ ds).getLast? = some c →
      isDecimalDigit c = true := by
    rintro ds s ⟨hne, hds⟩ hlast
    rw [List.getLast?_append, List.getLast?_eq_some_getLast hne, Option.some_or] at hlast
    obtain rfl := Option.some.inj hlast
    exact hds _ (List.getLast_mem hne)
  obtain ⟨_ | ds4, _ | ds6⟩ := l
  · cases hc
  · exact hrun (s := [.char '/', .char '/']) (h.v6 ds6 rfl) (by simpa [written] using hc)
  · exact hrun (s := [.char '/']) (h.v4 ds4 rfl) (by simpa [written] using hc)
  · exact hrun (s := .char '/' :: ds4 ++ [.char '/', .char '/']) (h.v6 ds6 rfl)
      (by simpa [written] using hc)

/-- The lengths that stand in a target from its first slash on are those that follow its host. -/
theorem exists_written_iff {P : Lengths → Prop} {target : Text} :
    (∃ l : Lengths, l.IsNumeric ∧ P l ∧
        Text.dropFinal '\n' (target.dropWhile (· ≠ .char '/')) = l.written) ↔
      ∃ (host : Text) (l : Lengths) (final : Text), target = host ++ (l.written ++ final) ∧
        .char '/' ∉ host ∧ l.IsNumeric ∧ P l ∧ (final = [] ∨ final = [.char '\n']) := by
  constructor
  · rintro ⟨l, hl, hP, hw⟩
    have hsplit : target.takeWhile (· ≠ .char '/') ++ target.dropWhile (· ≠ .char '/') = target :=
      List.takeWhile_append_dropWhile
    have hhost : .char '/' ∉ target.takeWhile (· ≠ .char '/') := by
      intro hmem
      simpa using List.all_eq_true.1 List.all_takeWhile _ hmem
    obtain hfinal | ⟨hfinal, -⟩ := Text.dropFinal_eq_iff.1 hw
    · exact ⟨_, l, [.char '\n'], by rw [← hfinal, hsplit], hhost, hl, hP, .inr rfl⟩
    · exact ⟨_, l, [], by rw [List.append_nil, ← hfinal, hsplit], hhost, hl, hP, .inl rfl⟩
  · rintro ⟨host, l, final, rfl, hhost, hl, hP, hfinal⟩
    refine ⟨l, hl, hP, ?_⟩
    have hdrop : (host ++ (l.written ++ final)).dropWhile (· ≠ .char '/') =
        (l.written ++ final).dropWhile (· ≠ .char '/') :=
      List.dropWhile_append_of_pos fun c hc => by simpa using ne_of_mem_of_not_mem hc hhost
    rw [hdrop]
    obtain hnil | ⟨tail, htail⟩ := l.written_eq_nil_or
    · rw [hnil]
      rcases hfinal with rfl | rfl <;> rfl
    · have hslash : (l.written ++ final).dropWhile (· ≠ .char '/') = l.written ++ final := by
        rw [htail]
        rfl
      rw [hslash, Text.dropFinal_eq_iff]
      rcases hfinal with rfl | rfl
      · -- The last character is a digit, so no line feed is dropped.
        refine .inr ⟨List.append_nil _, fun hlast => ?_⟩
        exact absurd (isDecimalDigit_of_getLast?_written hl hlast) (by decide)
      · exact .inl rfl

end Lengths

/-- The check of a target breaks off if its lengths are oversized. -/
theorem oversized_target_iff {target : Text} :
    (∃ n, checkLengths target = .error (.oversized n)) ↔ IsOversizedTarget target :=
  oversized_checkLengths_iff.trans Lengths.exists_written_iff

/-! ## Bodies -/

/-- Whether a keyword is that of a mechanism with a target. -/
def Keyword.isAddress : Keyword → Bool
  | .a | .mx => true
  | _ => false

/-- The target of a body, if it has one: what follows the colon, or the lengths that follow the
keyword without one. -/
def Body.target? (b : Body) : Option Text :=
  if b.keyword.any Keyword.isAddress then
    match b.rest with
    | .char ':' :: v => some v
    | .char '/' :: v => some (.char '/' :: v)
    | _ => none
  else none

/-- A term with a target breaks off where the check of the target does. -/
theorem withTarget_eq_error_iff {target : Text} {m : Text → Mechanism} {q : Qualifier}
    {e : TokenError} : withTarget target m q = .error e ↔ checkLengths target = .error e := by
  unfold withTarget
  cases checkLengths target <;> simp [Except.map]

section Error

variable {e : TokenError} (he : ∀ m, TokenError.malformed m ≠ e)
include he

/-- A term that needs a value is malformed without one. -/
theorem withValue_eq_error_iff {k : Keyword} {v : Text} {f : Text → Except TokenError Term} :
    withValue k v f = .error e ↔ v ≠ [] ∧ f v = .error e := by
  unfold withValue
  cases v <;> simp [he]

/-- What is read as a modifier is one, or malformed. -/
theorem readModifier_ne_error {qualified : Bool} {body : Text} :
    readModifier qualified body ≠ .error e := by
  unfold readModifier
  split
  · simp [he]
  · split
    · simp [he]
    · split <;> simp [he]

/-- Apart from bodies that are malformed, it is the check of a target that fails. -/
theorem readBody_eq_error_iff {q : Qualifier} {qualified : Bool} {body : Text} :
    readBody q qualified body = .error e ↔
      ∃ target, (Body.ofText body).target? = some target ∧ checkLengths target = .error e := by
  have hnil : checkLengths [] ≠ .error e := by
    show Except.ok () ≠ _
    simp
  unfold readBody Body.target?
  generalize (Body.ofText body).keyword = k
  generalize (Body.ofText body).rest = rest
  split
  -- The mechanisms without a target and the redirect modifier.
  case h_1 | h_7 => simp [Keyword.isAddress]
  case h_2 | h_3 | h_8 => simp [Keyword.isAddress, withValue_eq_error_iff he]
  case h_4 | h_5 =>
    rw [withValue_eq_error_iff he]
    split <;> simp [Keyword.isAddress, he]
  case h_6 =>
    split <;> simp [Keyword.isAddress, withValue_eq_error_iff he, he]
  -- The mechanisms with a target.
  case h_9 | h_12 => simp [Keyword.isAddress, withTarget_eq_error_iff, hnil]
  case h_10 v | h_13 v =>
    simp only [withValue_eq_error_iff he, withTarget_eq_error_iff]
    constructor
    · rintro ⟨-, hv⟩
      exact ⟨v, rfl, hv⟩
    · rintro ⟨target, ht, hv⟩
      cases ht
      exact ⟨fun hempty => hnil (hempty ▸ hv), hv⟩
  case h_11 | h_14 => simp [Keyword.isAddress, withTarget_eq_error_iff]
  -- All other bodies; those of a keyword with a target have none here.
  case h_15 _ hacolon haslash _ hmcolon hmslash =>
    refine iff_of_false (readModifier_ne_error he) ?_
    rintro ⟨target, ht, -⟩
    cases k with
    | none => cases ht
    | some word =>
      cases word with
      | a =>
        simp only [Option.any_some, Keyword.isAddress, if_true] at ht
        split at ht
        · exact hacolon _ rfl rfl
        · exact haslash _ rfl rfl
        · cases ht
      | mx =>
        simp only [Option.any_some, Keyword.isAddress, if_true] at ht
        split at ht
        · exact hmcolon _ rfl rfl
        · exact hmslash _ rfl rfl
        · cases ht
      | _ => simp [Keyword.isAddress] at ht

end Error

/-- No delimiter stands in a keyword, however its letters are written. -/
theorem isDelimiter_of_mem_word {word : Text} {k : Keyword} (h : Text.toLowerAscii word = k.text)
    {c : CodePoint} (hc : c ∈ word) : isDelimiter c = false := by
  have hmem : c.toLower ∈ k.text := by
    rw [← h]
    exact List.mem_map_of_mem hc
  rw [← Bool.not_eq_true, isDelimiter_iff]
  rintro (rfl | rfl | rfl) <;> cases k <;> exact absurd hmem (by decide)

/-- A word without a delimiter is what stands before the first one, if one follows or nothing. -/
theorem cut_append {word rest : Text} (hword : ∀ c ∈ word, isDelimiter c = false)
    (hrest : ∀ c ∈ rest.head?, isDelimiter c = true) :
    (word ++ rest).takeWhile (!isDelimiter ·) = word ∧
      (word ++ rest).dropWhile (!isDelimiter ·) = rest := by
  have hword' : ∀ c ∈ word, (!isDelimiter c) = true := by
    intro c hc
    rw [hword c hc]
    rfl
  have hrest' : ∀ c ∈ rest.head?, (!isDelimiter c) = false := by
    intro c hc
    rw [hrest c hc]
    rfl
  exact ⟨takeWhile_append_of_head? hword' hrest', dropWhile_append_of_head? hword' hrest'⟩

/-- A body is cut after its keyword if a delimiter follows. -/
theorem Body.ofText_append {word rest : Text} {k : Keyword} (h : Text.toLowerAscii word = k.text)
    (hr : ∀ c ∈ rest.head?, isDelimiter c = true) : ofText (word ++ rest) = ⟨some k, rest⟩ := by
  obtain ⟨htake, hdrop⟩ := cut_append (fun c hc => isDelimiter_of_mem_word h hc) hr
  rw [ofText, htake, hdrop, h, Keyword.ofText?_text]

/-- A body with a target is the keyword of a mechanism with one and then the target, after a colon
unless it begins with a slash. -/
theorem Body.target?_ofText_eq_some_iff {body target : Text} :
    (Body.ofText body).target? = some target ↔
      ∃ k word, Keyword.isAddress k = true ∧ Text.toLowerAscii word = k.text ∧
        (body = word ++ .char ':' :: target ∨
          target.head? = some (.char '/') ∧ body = word ++ target) := by
  constructor
  · intro h
    have hsplit : body.takeWhile (!isDelimiter ·) ++ body.dropWhile (!isDelimiter ·) = body :=
      List.takeWhile_append_dropWhile
    unfold target? ofText at h
    split at h
    · rename_i hany
      obtain ⟨k, hk, ha⟩ := (Option.any_eq_true _ _).1 hany
      refine ⟨k, _, ha, (Keyword.text_of_ofText? hk).symm, ?_⟩
      -- What is cut off after the keyword begins with a colon or a slash.
      split at h
      · rename_i v hrest
        cases h
        exact .inl (by rw [← hrest, hsplit])
      · rename_i v hrest
        cases h
        exact .inr ⟨rfl, by rw [← hrest, hsplit]⟩
      · cases h
    · cases h
  · rintro ⟨k, word, ha, hw, rfl | ⟨hslash, rfl⟩⟩
    · rw [Body.ofText_append hw (by simp [isDelimiter])]
      simp [target?, ha]
    · obtain ⟨v, rfl⟩ := List.head?_eq_some_iff.1 hslash
      rw [Body.ofText_append hw (by simp [isDelimiter])]
      simp [target?, ha]

/-- A keyword of a mechanism with a target, and an oversized target. -/
def IsOversizedBody (body : Text) : Prop :=
  ∃ (k : Keyword) (word target : Text), k.isAddress = true ∧ Text.toLowerAscii word = k.text ∧
    IsOversizedTarget target ∧
    (body = word ++ .char ':' :: target ∨
      target.head? = some (.char '/') ∧ body = word ++ target)

/-- The reading of a body breaks off if its target is oversized. -/
theorem oversized_readBody_iff {q : Qualifier} {qualified : Bool} {body : Text} :
    (∃ n, readBody q qualified body = .error (.oversized n)) ↔ IsOversizedBody body := by
  have hbody : ∀ n, readBody q qualified body = .error (.oversized n) ↔
      ∃ target, (Body.ofText body).target? = some target ∧
        checkLengths target = .error (.oversized n) :=
    fun n => readBody_eq_error_iff (by simp)
  simp only [hbody, Body.target?_ofText_eq_some_iff, IsOversizedBody, ← oversized_target_iff]
  constructor
  · rintro ⟨n, target, ⟨k, word, ha, hw, hform⟩, hn⟩
    exact ⟨k, word, target, ha, hw, ⟨n, hn⟩, hform⟩
  · rintro ⟨k, word, target, ha, hw, ⟨n, hn⟩, hform⟩
    exact ⟨n, target, ⟨k, word, ha, hw, hform⟩, hn⟩

/-- A keyword does not begin with the sign of a qualifier, however its letters are written. -/
theorem Keyword.exists_word_eq_cons {word : Text} {k : Keyword}
    (h : Text.toLowerAscii word = k.text) :
    ∃ c tail, word = c :: tail ∧ Qualifier.ofSymbol? c = none := by
  obtain ⟨c, tail, rfl⟩ : ∃ c tail, word = c :: tail := by
    cases word with
    | nil => cases k <;> cases h
    | cons c tail => exact ⟨c, tail, rfl⟩
  refine ⟨c, tail, rfl, ?_⟩
  cases hq : Qualifier.ofSymbol? c with
  | none => rfl
  | some q =>
    -- No sign is a letter of a keyword.
    have hmem : q.symbol.toLower ∈ k.text := by
      rw [Qualifier.symbol_of_ofSymbol? hq, ← h]
      exact List.mem_cons_self
    cases q <;> cases k <;> exact absurd hmem (by decide)

/-- A body does not begin with the sign of a qualifier if it begins with a keyword. -/
theorem IsOversizedBody.exists_cons {body : Text} (h : IsOversizedBody body) :
    ∃ c rest, body = c :: rest ∧ Qualifier.ofSymbol? c = none := by
  obtain ⟨k, word, target, -, hw, -, hform⟩ := h
  obtain ⟨c, tail, rfl, hc⟩ := Keyword.exists_word_eq_cons hw
  rcases hform with rfl | ⟨-, rfl⟩
  · exact ⟨c, _, rfl, hc⟩
  · exact ⟨c, _, rfl, hc⟩

/-! ## Tokens -/

/-- The sign of a qualifier may stand in front of an oversized body. -/
def Term.IsOversized (token : Text) : Prop :=
  ∃ sign body : Text, (sign = [] ∨ ∃ q : Qualifier, sign = [q.symbol]) ∧ IsOversizedBody body ∧
    token = sign ++ body

/-- The sign of a qualifier is told from the body by the first character. -/
theorem Term.isOversized_cons_iff {c : CodePoint} {rest : Text} :
    IsOversized (c :: rest) ↔ (Qualifier.ofSymbol? c = none ∧ IsOversizedBody (c :: rest)) ∨
      (Qualifier.ofSymbol? c).isSome = true ∧ IsOversizedBody rest := by
  constructor
  · rintro ⟨_, body, rfl | ⟨q, rfl⟩, hbody, heq⟩
    · -- The body begins with a letter, so its first character is no sign.
      obtain ⟨c', rest', rfl, hc⟩ := hbody.exists_cons
      obtain ⟨rfl, rfl⟩ := List.cons.inj heq
      exact .inl ⟨hc, hbody⟩
    · obtain ⟨rfl, rfl⟩ := List.cons.inj heq
      exact .inr ⟨by rw [Qualifier.ofSymbol?_symbol]; rfl, hbody⟩
  · rintro (⟨-, hbody⟩ | ⟨hc, hbody⟩)
    · exact ⟨[], _, .inl rfl, hbody, rfl⟩
    · obtain ⟨q, hq⟩ := Option.isSome_iff_exists.1 hc
      exact ⟨[c], rest, .inr ⟨q, by rw [Qualifier.symbol_of_ofSymbol? hq]⟩, hbody, rfl⟩

/-- A token that does not begin with the sign of a qualifier is a body. -/
theorem Term.read_cons_of_eq_none {c : CodePoint} {rest : Text}
    (hc : Qualifier.ofSymbol? c = none) : read (c :: rest) = readBody .pass false (c :: rest) := by
  simp only [read, hc]

/-- A token that begins with the sign of a qualifier is read as what follows it. -/
theorem Term.read_cons_of_eq_some {c : CodePoint} {rest : Text} {q : Qualifier}
    (hc : Qualifier.ofSymbol? c = some q) : read (c :: rest) =
      if rest.isEmpty then .error (.malformed .bareQualifier) else readBody q true rest := by
  simp only [read, hc]

/-- The reading of a token breaks off at a length if and only if the token is oversized. -/
theorem oversized_read_iff {token : Text} :
    (∃ n, Term.read token = .error (.oversized n)) ↔ Term.IsOversized token := by
  cases token with
  | nil =>
    refine iff_of_false (by simp [Term.read]) ?_
    rintro ⟨sign, body, -, hbody, heq⟩
    obtain ⟨c, rest, rfl, -⟩ := hbody.exists_cons
    exact absurd heq.symm (List.append_ne_nil_of_right_ne_nil _ (List.cons_ne_nil _ _))
  | cons c rest =>
    rw [Term.isOversized_cons_iff]
    cases hc : Qualifier.ofSymbol? c with
    | none => simp [Term.read_cons_of_eq_none hc, oversized_readBody_iff]
    | some q =>
      rw [Term.read_cons_of_eq_some hc]
      cases rest with
      | nil =>
        have hnil : ¬ IsOversizedBody [] := fun h => by
          obtain ⟨_, _, hcons, -⟩ := h.exists_cons
          cases hcons
        simp [hnil]
      | cons c' rest' => simp [oversized_readBody_iff]

/-- The check of a target finds no token empty. -/
theorem checkLengths_ne_empty {target : Text} : checkLengths target ≠ .error .empty := by
  have hbound : ∀ {digits : Option Text} {bound : Nat} {m : Malformation},
      Lengths.checkBound digits bound m ≠ .error .empty := by
    intro digits bound m
    unfold Lengths.checkBound
    cases digits with
    | none => simp
    | some ds =>
      by_cases hlong : maxDigits < ds.length
      · simp [hlong]
      · by_cases hbig : bound < decimalValue ds <;> simp [hlong, hbig]
  unfold checkLengths
  split
  · simp
  · rename_i l hl
    cases h4 : Lengths.checkBound l.v4 Network.V4.width .badLength4 with
    | error e =>
      rintro ⟨⟩
      exact hbound h4
    | ok _ => exact hbound

/-- A token that is not empty is read as a term, found malformed, or oversized. -/
theorem read_cases {token : Text} (hne : token ≠ []) :
    (∃ t, Term.read token = .ok t) ∨ (∃ m, Term.read token = .error (.malformed m)) ∨
      ∃ n, Term.read token = .error (.oversized n) := by
  have hbody : ∀ {q : Qualifier} {qualified : Bool} {body : Text},
      readBody q qualified body ≠ .error .empty := by
    intro q qualified body he
    obtain ⟨target, -, hcheck⟩ := (readBody_eq_error_iff (by simp)).1 he
    exact checkLengths_ne_empty hcheck
  -- Only the empty token is found empty.
  have hempty : Term.read token ≠ .error .empty := by
    cases token with
    | nil => exact absurd rfl hne
    | cons c rest =>
      cases hc : Qualifier.ofSymbol? c with
      | none =>
        rw [Term.read_cons_of_eq_none hc]
        exact hbody
      | some q =>
        rw [Term.read_cons_of_eq_some hc]
        split
        · simp
        · exact hbody
  cases hread : Term.read token with
  | ok t => exact .inl ⟨t, rfl⟩
  | error e =>
    cases e with
    | malformed m => exact .inr (.inl ⟨m, rfl⟩)
    | empty => exact absurd hread hempty
    | oversized n => exact .inr (.inr ⟨n, rfl⟩)

/-- A token that is not empty is read as a term or found malformed if and only if it is not
oversized. -/
theorem read_ok_or_malformed_iff {token : Text} (hne : token ≠ []) :
    ((∃ t, Term.read token = .ok t) ∨ ∃ m, Term.read token = .error (.malformed m)) ↔
      ¬ Term.IsOversized token := by
  rw [← oversized_read_iff]
  constructor
  · rintro (⟨t, ht⟩ | ⟨m, hm⟩) ⟨n, hn⟩
    · rw [ht] at hn
      cases hn
    · rw [hm] at hn
      cases hn
  · intro h
    rcases read_cases hne with ht | hm | hn
    · exact .inl ht
    · exact .inr hm
    · exact absurd hn h

end SenderPolicy
