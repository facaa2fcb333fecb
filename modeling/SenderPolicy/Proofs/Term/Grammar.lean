import SenderPolicy.Proofs.Term.ModifierName

/-!
# The grammar of terms

`Term.IsSpelled` says which tokens there are for a term, by writing them: the sign of a qualifier, a
keyword in capital or small letters, a delimiter and what must follow it. It speaks of no order in
which anything would be tried. `Term.read_eq_ok_iff` shows that the tokens that are read are those
of the grammar, each as its term.

The keyword of a body and the delimiter after it are found again from the body alone
(`Body.ofText_eq_iff`), because no delimiter can stand in a keyword. The names of modifiers hold
none either (`isDelimiter_of_mem_name`), so the body of a modifier is told from the others by what
stands before its first delimiter.
-/

namespace SenderPolicy

/-! ## Targets -/

/-- Every length that is there has few enough digits to be read and is within its bound. -/
structure Lengths.IsWithin (l : Lengths) : Prop where
  /-- The IPv4 length. -/
  v4 : ∀ ds ∈ l.v4, ds.length ≤ maxDigits ∧ decimalValue ds ≤ Network.V4.width
  /-- The IPv6 length. -/
  v6 : ∀ ds ∈ l.v6, ds.length ≤ maxDigits ∧ decimalValue ds ≤ Network.V6.width

/-- A host and the CIDR lengths after it, any of which may be left out. A line feed may stand at the
very end. -/
def IsTarget (target : Text) : Prop :=
  ∃ (host : Text) (l : Lengths) (final : Text), target = host ++ (l.written ++ final) ∧
    .char '/' ∉ host ∧ l.IsNumeric ∧ l.IsWithin ∧ (final = [] ∨ final = [.char '\n'])

/-- The checks of both lengths pass if both are within their bounds. -/
theorem Lengths.checkBounds_eq_ok_iff {l : Lengths} {m m' : Malformation} :
    (do checkBound l.v4 Network.V4.width m; checkBound l.v6 Network.V6.width m') = .ok () ↔
      l.IsWithin := by
  have hbind : ∀ first second : Except TokenError Unit,
      (do first; second) = .ok () ↔ first = .ok () ∧ second = .ok () := by
    intro first second
    cases first <;> simp [bind, Except.bind]
  rw [hbind, checkBound_eq_ok_iff, checkBound_eq_ok_iff]
  exact ⟨fun ⟨h4, h6⟩ => ⟨h4, h6⟩, fun ⟨h4, h6⟩ => ⟨h4, h6⟩⟩

/-- The targets that are in order are those of the grammar. -/
theorem checkLengths_eq_ok_iff {target : Text} :
    checkLengths target = .ok () ↔ IsTarget target := by
  rw [checkLengths_eq_iff (by simp)]
  simp only [Lengths.checkBounds_eq_ok_iff]
  exact Lengths.exists_written_iff

/-! ## Terms -/

/-- What is written after the keyword of a mechanism, from the delimiter on. -/
inductive Mechanism.IsWritten : Mechanism → Text → Prop
  /-- Nothing follows `all`. -/
  | all : IsWritten .all []
  /-- Nothing need follow `ptr`. -/
  | ptr : IsWritten (.ptr []) []
  /-- A domain follows a colon. -/
  | domain {m : Text → Mechanism} {v : Text} (hm : m = .includes ∨ m = .existence ∨ m = .ptr)
      (hv : v ≠ []) : IsWritten (m v) (.char ':' :: v)
  /-- An IPv4 network follows a colon. -/
  | ip4 {v : Text} (hv : Network.V4.isNetwork v = true) : IsWritten (.ip4 v) (.char ':' :: v)
  /-- An IPv6 network follows a colon. -/
  | ip6 {v : Text} (hv : Network.V6.isNetwork v = true) : IsWritten (.ip6 v) (.char ':' :: v)
  /-- A target may be left out. -/
  | noTarget {m : Text → Mechanism} (hm : m = .a ∨ m = .mx) : IsWritten (m []) []
  /-- A target follows a colon. -/
  | target {m : Text → Mechanism} {v : Text} (hm : m = .a ∨ m = .mx) (hv : v ≠ [])
      (ht : IsTarget v) : IsWritten (m v) (.char ':' :: v)
  /-- A target without a host begins with the slash of a length. -/
  | lengths {m : Text → Mechanism} {v : Text} (hm : m = .a ∨ m = .mx)
      (ht : IsTarget (.char '/' :: v)) : IsWritten (m (.char '/' :: v)) (.char '/' :: v)

/-- A qualifier is written as its symbol; the one that every mechanism has by default may be left
out. -/
def Qualifier.IsWritten (q : Qualifier) (sign : Text) : Prop :=
  sign = [q.symbol] ∨ q = .pass ∧ sign = []

/-- The tokens that there are for a term. The letters of keywords may be capital or small ones. -/
inductive Term.IsSpelled : Term → Text → Prop
  /-- A mechanism follows its qualifier. -/
  | mechanism {q : Qualifier} {m : Mechanism} {sign word rest : Text} (hs : q.IsWritten sign)
      (hw : Text.toLowerAscii word = m.keyword.text) (hm : m.IsWritten rest) :
      IsSpelled (.mechanism q m) (sign ++ (word ++ rest))
  /-- A domain follows the equals sign of a redirect. -/
  | redirect {word v : Text} (hw : Text.toLowerAscii word = Keyword.redirect.text) (hv : v ≠ []) :
      IsSpelled (.redirect v) (word ++ .char '=' :: v)
  /-- Any other name may stand before an equals sign, and anything after it. -/
  | modifier {word v : Text} (hn : isModifierName word = true)
      (hw : Text.toLowerAscii word ≠ Keyword.redirect.text) :
      IsSpelled (.modifier (word ++ .char '=' :: v)) (word ++ .char '=' :: v)

/-! ## Bodies -/

/-- The keyword of a body and what follows it are what the body is written from. -/
theorem Body.ofText_iff {body rest : Text} {k : Keyword} :
    (ofText body).keyword = some k ∧ (ofText body).rest = rest ↔
      ∃ word, body = word ++ rest ∧ Text.toLowerAscii word = k.text ∧
        ∀ c ∈ rest.head?, isDelimiter c = true := by
  constructor
  · rintro ⟨hk, hrest⟩
    have hsplit : body.takeWhile (!isDelimiter ·) ++ rest = body := by
      rw [← hrest]
      exact List.takeWhile_append_dropWhile
    refine ⟨_, hsplit.symm, (Keyword.text_of_ofText? hk).symm, fun c hc => ?_⟩
    have hnot := List.head?_dropWhile_not (!isDelimiter ·) body
    rw [show body.dropWhile (!isDelimiter ·) = rest from hrest, Option.mem_def.1 hc] at hnot
    simpa using hnot
  · rintro ⟨word, rfl, hw, hr⟩
    rw [ofText_append hw hr]
    exact ⟨rfl, rfl⟩

/-- What follows the keyword of a mechanism begins with a delimiter. -/
theorem Mechanism.IsWritten.isDelimiter_head? {m : Mechanism} {rest : Text}
    (h : m.IsWritten rest) : ∀ c ∈ rest.head?, isDelimiter c = true := by
  cases h with
  | all | ptr | noTarget => simp
  | domain | ip4 | ip6 | target | lengths => simp [isDelimiter]

/-- No network is written as nothing. -/
theorem Network.ne_nil_of_isNetwork {v : Text}
    (h : V4.isNetwork v = true ∨ V6.isNetwork v = true) : v ≠ [] := by
  rintro rfl
  exact absurd h (by decide)

/-- A mechanism of the grammar is read from its body. -/
theorem readBody_of_isWritten {m : Mechanism} {word rest : Text}
    (hw : Text.toLowerAscii word = m.keyword.text) (hm : m.IsWritten rest) (q : Qualifier)
    (qualified : Bool) : readBody q qualified (word ++ rest) = .ok (.mechanism q m) := by
  have hbody := Body.ofText_append hw hm.isDelimiter_head?
  unfold readBody
  rw [hbody]
  cases hm with
  | all | ptr => rfl
  | domain hm hv =>
    rcases hm with rfl | rfl | rfl
    all_goals exact withValue_eq_ok_iff.2 ⟨hv, rfl⟩
  | ip4 hv => exact withValue_eq_ok_iff.2 ⟨Network.ne_nil_of_isNetwork (.inl hv), if_pos hv⟩
  | ip6 hv => exact withValue_eq_ok_iff.2 ⟨Network.ne_nil_of_isNetwork (.inr hv), if_pos hv⟩
  | noTarget hm =>
    have hcheck : checkLengths [] = .ok () := rfl
    rcases hm with rfl | rfl
    all_goals exact withTarget_eq_ok_iff.2 ⟨hcheck, rfl⟩
  | target hm hv ht =>
    have hcheck := checkLengths_eq_ok_iff.2 ht
    rcases hm with rfl | rfl
    all_goals exact withValue_eq_ok_iff.2 ⟨hv, withTarget_eq_ok_iff.2 ⟨hcheck, rfl⟩⟩
  | lengths hm ht =>
    have hcheck := checkLengths_eq_ok_iff.2 ht
    rcases hm with rfl | rfl
    all_goals exact withTarget_eq_ok_iff.2 ⟨hcheck, rfl⟩

/-- A mechanism that is read from a body is one of the grammar. -/
theorem exists_word_of_isWritten {m : Mechanism} {body rest : Text}
    (hk : (Body.ofText body).keyword = some m.keyword) (hr : (Body.ofText body).rest = rest)
    (hm : m.IsWritten rest) :
    ∃ word rest : Text, body = word ++ rest ∧ Text.toLowerAscii word = m.keyword.text ∧
      m.IsWritten rest := by
  obtain ⟨word, hbody, hw, -⟩ := Body.ofText_iff.1 ⟨hk, hr⟩
  exact ⟨word, rest, hbody, hw, hm⟩

/-- What is read from a body is a mechanism of the grammar, a redirect to some domain, or the body
as a modifier. -/
theorem exists_isWritten_of_readBody {q : Qualifier} {qualified : Bool} {body : Text} {t : Term}
    (h : readBody q qualified body = .ok t) :
    (∃ m : Mechanism, t = .mechanism q m ∧
        ∃ word rest : Text, body = word ++ rest ∧ Text.toLowerAscii word = m.keyword.text ∧
          m.IsWritten rest) ∨
      qualified = false ∧ ∃ word v : Text, body = word ++ .char '=' :: v ∧
        (Text.toLowerAscii word = Keyword.redirect.text ∧ v ≠ [] ∧ t = .redirect v ∨
          isModifierName word = true ∧ Text.toLowerAscii word ≠ Keyword.redirect.text ∧
            t = .modifier body) := by
  have hread := h
  unfold readBody at h
  split at h
  case h_1 hk hr =>
    cases h
    exact .inl ⟨.all, rfl, exists_word_of_isWritten hk hr .all⟩
  case h_2 v hk hr =>
    obtain ⟨hv, ht⟩ := withValue_eq_ok_iff.1 h
    cases ht
    exact .inl ⟨.includes v, rfl, exists_word_of_isWritten hk hr (.domain (.inl rfl) hv)⟩
  case h_3 v hk hr =>
    obtain ⟨hv, ht⟩ := withValue_eq_ok_iff.1 h
    cases ht
    exact .inl
      ⟨.existence v, rfl, exists_word_of_isWritten hk hr (.domain (.inr (.inl rfl)) hv)⟩
  case h_4 v hk hr =>
    obtain ⟨-, ht⟩ := withValue_eq_ok_iff.1 h
    split at ht
    · rename_i hnetwork
      cases ht
      exact .inl ⟨.ip4 v, rfl, exists_word_of_isWritten hk hr (.ip4 hnetwork)⟩
    · cases ht
  case h_5 v hk hr =>
    obtain ⟨-, ht⟩ := withValue_eq_ok_iff.1 h
    split at ht
    · rename_i hnetwork
      cases ht
      exact .inl ⟨.ip6 v, rfl, exists_word_of_isWritten hk hr (.ip6 hnetwork)⟩
    · cases ht
  case h_6 v hk hr =>
    split at h
    · cases h
    · rename_i hqualified
      obtain ⟨hv, ht⟩ := withValue_eq_ok_iff.1 h
      cases ht
      obtain ⟨word, hbody, hw, -⟩ := Body.ofText_iff.1 ⟨hk, hr⟩
      exact .inr ⟨Bool.not_eq_true _ ▸ hqualified, word, v, hbody, .inl ⟨hw, hv, rfl⟩⟩
  case h_7 hk hr =>
    cases h
    exact .inl ⟨.ptr [], rfl, exists_word_of_isWritten hk hr .ptr⟩
  case h_8 v hk hr =>
    obtain ⟨hv, ht⟩ := withValue_eq_ok_iff.1 h
    cases ht
    exact .inl ⟨.ptr v, rfl, exists_word_of_isWritten hk hr (.domain (.inr (.inr rfl)) hv)⟩
  -- The mechanisms with a target.
  case h_9 hk hr =>
    obtain ⟨-, rfl⟩ := withTarget_eq_ok_iff.1 h
    exact .inl ⟨.a [], rfl, exists_word_of_isWritten hk hr (.noTarget (.inl rfl))⟩
  case h_10 v hk hr =>
    obtain ⟨hv, ht⟩ := withValue_eq_ok_iff.1 h
    obtain ⟨hcheck, rfl⟩ := withTarget_eq_ok_iff.1 ht
    exact .inl ⟨.a v, rfl, exists_word_of_isWritten hk hr
      (.target (.inl rfl) hv (checkLengths_eq_ok_iff.1 hcheck))⟩
  case h_11 v hk hr =>
    obtain ⟨hcheck, rfl⟩ := withTarget_eq_ok_iff.1 h
    exact .inl ⟨.a (.char '/' :: v), rfl, exists_word_of_isWritten hk hr
      (.lengths (.inl rfl) (checkLengths_eq_ok_iff.1 hcheck))⟩
  case h_12 hk hr =>
    obtain ⟨-, rfl⟩ := withTarget_eq_ok_iff.1 h
    exact .inl ⟨.mx [], rfl, exists_word_of_isWritten hk hr (.noTarget (.inr rfl))⟩
  case h_13 v hk hr =>
    obtain ⟨hv, ht⟩ := withValue_eq_ok_iff.1 h
    obtain ⟨hcheck, rfl⟩ := withTarget_eq_ok_iff.1 ht
    exact .inl ⟨.mx v, rfl, exists_word_of_isWritten hk hr
      (.target (.inr rfl) hv (checkLengths_eq_ok_iff.1 hcheck))⟩
  case h_14 v hk hr =>
    obtain ⟨hcheck, rfl⟩ := withTarget_eq_ok_iff.1 h
    exact .inl ⟨.mx (.char '/' :: v), rfl, exists_word_of_isWritten hk hr
      (.lengths (.inr rfl) (checkLengths_eq_ok_iff.1 hcheck))⟩
  case h_15 =>
    obtain ⟨hqualified, hequals, hname, rfl⟩ := readModifier_eq_ok_iff.1 h
    obtain ⟨hbody, hnot⟩ | ⟨v, hv⟩ := Text.eq_before_append '=' body
    · exact absurd hequals hnot
    · exact .inr ⟨hqualified, _, v, hv, .inr ⟨hname, fun hw => readBody_ne_modifier hw hread, rfl⟩⟩

/-! ## Modifiers -/

/-- The name of a modifier begins with a letter, and only characters of names follow it. A line feed
may stand at the very end. -/
theorem exists_eq_of_isModifierName {word : Text} (h : isModifierName word = true) :
    ∃ (c : CodePoint) (rest : Text), word = c :: rest ∧ isLatinLetter c = true ∧
      ∀ d ∈ rest, isNameChar d = true ∨ d = '\n' := by
  unfold isModifierName at h
  split at h
  · cases h
  · rename_i c rest hdrop
    rw [Bool.and_eq_true, List.all_eq_true] at h
    obtain ⟨hc, hrest⟩ := h
    obtain rfl | ⟨rfl, -⟩ := Text.dropFinal_eq_iff.1 hdrop
    · refine ⟨c, rest ++ [.char '\n'], rfl, hc, fun d hd => ?_⟩
      rcases List.mem_append.1 hd with hd | hd
      · exact .inl (hrest d hd)
      · exact .inr (List.mem_singleton.1 hd)
    · exact ⟨c, rest, rfl, hc, fun d hd => .inl (hrest d hd)⟩

/-- No delimiter stands in the name of a modifier. -/
theorem isDelimiter_of_mem_name {word : Text} (h : isModifierName word = true) :
    ∀ c ∈ word, isDelimiter c = false := by
  have hchar : ∀ {c : CodePoint}, isNameChar c = true ∨ c = '\n' → isDelimiter c = false := by
    intro c hc
    rw [← Bool.not_eq_true, isDelimiter_iff]
    rintro (rfl | rfl | rfl) <;> exact absurd hc (by decide)
  obtain ⟨c, rest, rfl, hc, hrest⟩ := exists_eq_of_isModifierName h
  intro d hd
  rcases List.mem_cons.1 hd with rfl | hd
  · exact hchar (.inl (by simp [isNameChar, isLatinAlnum, hc]))
  · exact hchar (hrest d hd)

/-- The sign of a qualifier is no letter. -/
theorem ofSymbol?_of_isLatinLetter {c : CodePoint} (h : isLatinLetter c = true) :
    Qualifier.ofSymbol? c = none := by
  cases hq : Qualifier.ofSymbol? c with
  | none => rfl
  | some q =>
    rw [← Qualifier.symbol_of_ofSymbol? hq] at h
    cases q <;> exact absurd h (by decide)

/-- A body whose first delimiter is an equals sign is read as a modifier, unless its keyword is that
of a redirect. -/
theorem readBody_of_rest_eq_equals {q : Qualifier} {qualified : Bool} {body v : Text}
    (hr : (Body.ofText body).rest = .char '=' :: v)
    (hk : (Body.ofText body).keyword ≠ some .redirect) :
    readBody q qualified body = readModifier qualified body := by
  unfold readBody
  rw [hr]
  split
  case h_6 hkeyword _ => exact absurd hkeyword hk
  case h_15 => rfl
  -- In all other cases something else than an equals sign follows the keyword.
  all_goals
    rename_i hrest
    simp at hrest

/-- A modifier of the grammar is read from its body. -/
theorem readBody_of_isModifierName {word v : Text} (hn : isModifierName word = true)
    (hw : Text.toLowerAscii word ≠ Keyword.redirect.text) :
    readBody .pass false (word ++ .char '=' :: v) = .ok (.modifier (word ++ .char '=' :: v)) := by
  have hequals : ∀ c ∈ (CodePoint.char '=' :: v).head?, isDelimiter c = true := by
    simp [isDelimiter]
  obtain ⟨htake, hdrop⟩ := cut_append (isDelimiter_of_mem_name hn) hequals
  have hk : (Body.ofText (word ++ .char '=' :: v)).keyword ≠ some .redirect := by
    intro hk
    rw [Body.ofText, htake] at hk
    exact hw (Keyword.text_of_ofText? hk).symm
  -- The name is what stands before the first equals sign.
  have hbefore : Text.before '=' (word ++ .char '=' :: v) = word :=
    Text.before_append fun hc => absurd (isDelimiter_of_mem_name hn _ hc) (by decide)
  rw [readBody_of_rest_eq_equals hdrop hk]
  exact readModifier_eq_ok_iff.2 ⟨rfl, by simp, by rw [hbefore]; exact hn, rfl⟩

/-- A redirect of the grammar is read from its body. -/
theorem readBody_of_redirect {word v : Text} (hw : Text.toLowerAscii word = Keyword.redirect.text)
    (hv : v ≠ []) : readBody .pass false (word ++ .char '=' :: v) = .ok (.redirect v) := by
  have hbody : Body.ofText (word ++ .char '=' :: v) = ⟨some .redirect, .char '=' :: v⟩ :=
    Body.ofText_append hw (by simp [isDelimiter])
  unfold readBody
  rw [hbody]
  show withValue .redirect v (fun v => .ok (.redirect v)) = .ok (.redirect v)
  exact withValue_eq_ok_iff.2 ⟨hv, rfl⟩

/-! ## Tokens -/

/-- The tokens that are read as a term are those that the grammar has for it. -/
theorem Term.read_eq_ok_iff {token : Text} {t : Term} :
    read token = .ok t ↔ t.IsSpelled token := by
  constructor
  · intro h
    cases token with
    | nil => cases h
    | cons c rest =>
      cases hc : Qualifier.ofSymbol? c with
      | none =>
        rw [read_cons_of_eq_none hc] at h
        obtain ⟨m, rfl, word, rest', hbody, hw, hm⟩ | ⟨-, word, v, hbody, hmodifier⟩ :=
          exists_isWritten_of_readBody h
        · rw [hbody]
          show IsSpelled _ ([] ++ (word ++ rest'))
          exact .mechanism (.inr ⟨rfl, rfl⟩) hw hm
        · rw [hbody]
          obtain ⟨hw, hv, rfl⟩ | ⟨hn, hw, rfl⟩ := hmodifier
          · exact .redirect hw hv
          · rw [hbody]
            exact .modifier hn hw
      | some q =>
        rw [read_cons_of_eq_some hc] at h
        split at h
        · cases h
        · obtain ⟨m, rfl, word, rest', rfl, hw, hm⟩ | ⟨hqualified, -⟩ :=
            exists_isWritten_of_readBody h
          · rw [← Qualifier.symbol_of_ofSymbol? hc]
            show IsSpelled _ ([q.symbol] ++ (word ++ rest'))
            exact .mechanism (.inl rfl) hw hm
          · cases hqualified
  · intro h
    cases h with
    | @mechanism q m sign word rest hs hw hm =>
      have hbody := readBody_of_isWritten hw hm
      obtain ⟨c, tail, rfl, hc⟩ := Keyword.exists_word_eq_cons hw
      rcases hs with rfl | ⟨rfl, rfl⟩
      · exact (read_cons_of_eq_some q.ofSymbol?_symbol).trans (hbody q true)
      · exact (read_cons_of_eq_none hc).trans (hbody .pass false)
    | @redirect word v hw hv =>
      have hbody := readBody_of_redirect hw hv
      obtain ⟨c, tail, rfl, hc⟩ := Keyword.exists_word_eq_cons hw
      exact (read_cons_of_eq_none hc).trans hbody
    | @modifier word v hn hw =>
      have hbody := readBody_of_isModifierName (v := v) hn hw
      obtain ⟨c, tail, rfl, hc, -⟩ := exists_eq_of_isModifierName hn
      exact (read_cons_of_eq_none (ofSymbol?_of_isLatinLetter hc)).trans hbody

end SenderPolicy
