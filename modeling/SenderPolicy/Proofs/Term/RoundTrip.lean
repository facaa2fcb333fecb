import SenderPolicy.Proofs.Term.Oversized
import SenderPolicy.Term.Printer

/-!
# Reading what a term is written as

A term that was read is written in its canonical spelling, which may differ from the token that it
was read from: the keyword is in small letters, and neither the sign for `pass` nor a colon in front
of a CIDR length is written. The canonical spelling is read as the same term (`read_render`).

The proof goes by what a mechanism must say to be read at all. Every mechanism that was read does
(`readBody_eq_ok_cases`), and every mechanism that does is read from its canonical spelling
(`readBody_render`), for the keyword ends where the value begins: with a colon, with the slash of a
CIDR length, or with nothing.
-/

namespace SenderPolicy

/-- What a mechanism says is such that it can be read: a value is there if the mechanism needs one,
a network is one, and the CIDR lengths of a target are in order. -/
def Mechanism.IsReadable : Mechanism → Prop
  | .all | .ptr _ => True
  | .includes v | .existence v => v ≠ []
  | .a v | .mx v => checkLengths v = .ok ()
  | .ip4 v => v ≠ [] ∧ Network.V4.isNetwork v = true
  | .ip6 v => v ≠ [] ∧ Network.V6.isNetwork v = true

/-! ## What is read -/

section Read

variable {k : Keyword} {q : Qualifier} {qualified : Bool} {body v : Text} {t : Term}

/-- A term of a value is read if the value is there. -/
theorem withValue_eq_ok_iff {f : Text → Except TokenError Term} :
    withValue k v f = .ok t ↔ v ≠ [] ∧ f v = .ok t := by
  unfold withValue
  cases v <;> simp

/-- A term of a target is read if the CIDR lengths are in order. -/
theorem withTarget_eq_ok_iff {m : Text → Mechanism} :
    withTarget v m q = .ok t ↔ checkLengths v = .ok () ∧ .mechanism q (m v) = t := by
  unfold withTarget
  cases checkLengths v <;> simp [Except.map]

/-- A modifier is read if it has no qualifier and holds an equals sign after a name. -/
theorem readModifier_eq_ok_iff : readModifier qualified body = .ok t ↔
    qualified = false ∧ CodePoint.char '=' ∈ body ∧ isModifierName (Text.before '=' body) = true ∧
      .modifier body = t := by
  unfold readModifier
  by_cases hequals : (CodePoint.char '=') ∈ body
  · cases qualified
    · by_cases hname : isModifierName (Text.before '=' body) = true <;> simp [hequals, hname]
    · simp [hequals]
  · simp [hequals]

/-- What is cut off after the keyword of a body is a part of the body. -/
theorem mem_of_mem_rest {c : CodePoint} (h : c ∈ (Body.ofText body).rest) : c ∈ body :=
  (List.dropWhile_sublist _).mem h

/-- What is read from a body is a mechanism that can be read, a redirect to some domain, or the body
as a modifier. What the term says stands in the body. -/
theorem readBody_eq_ok_cases (h : readBody q qualified body = .ok t) :
    (∃ m : Mechanism, t = .mechanism q m ∧ m.IsReadable ∧ ∀ c ∈ m.value, c ∈ body) ∨
      (∃ v : Text, t = .redirect v ∧ v ≠ [] ∧ ∀ c ∈ v, c ∈ body) ∨
      qualified = false ∧ t = .modifier body := by
  have hrest : ∀ c ∈ (Body.ofText body).rest, c ∈ body := fun c => mem_of_mem_rest
  unfold readBody at h
  split at h
  case h_1 =>
    cases h
    exact .inl ⟨.all, rfl, trivial, by simp [Mechanism.value]⟩
  case h_2 v _ hr =>
    obtain ⟨hne, hv⟩ := withValue_eq_ok_iff.1 h
    cases hv
    exact .inl ⟨.includes v, rfl, hne, fun c hc => hrest c (hr ▸ List.mem_cons_of_mem _ hc)⟩
  case h_3 v _ hr =>
    obtain ⟨hne, hv⟩ := withValue_eq_ok_iff.1 h
    cases hv
    exact .inl ⟨.existence v, rfl, hne, fun c hc => hrest c (hr ▸ List.mem_cons_of_mem _ hc)⟩
  case h_4 v _ hr =>
    obtain ⟨hne, hv⟩ := withValue_eq_ok_iff.1 h
    split at hv
    · rename_i hnetwork
      cases hv
      exact .inl ⟨.ip4 v, rfl, ⟨hne, hnetwork⟩,
        fun c hc => hrest c (hr ▸ List.mem_cons_of_mem _ hc)⟩
    · cases hv
  case h_5 v _ hr =>
    obtain ⟨hne, hv⟩ := withValue_eq_ok_iff.1 h
    split at hv
    · rename_i hnetwork
      cases hv
      exact .inl ⟨.ip6 v, rfl, ⟨hne, hnetwork⟩,
        fun c hc => hrest c (hr ▸ List.mem_cons_of_mem _ hc)⟩
    · cases hv
  case h_6 v _ hr =>
    split at h
    · cases h
    · obtain ⟨hne, hv⟩ := withValue_eq_ok_iff.1 h
      cases hv
      exact .inr (.inl ⟨v, rfl, hne, fun c hc => hrest c (hr ▸ List.mem_cons_of_mem _ hc)⟩)
  case h_7 =>
    cases h
    exact .inl ⟨.ptr [], rfl, trivial, by simp [Mechanism.value]⟩
  case h_8 v _ hr =>
    obtain ⟨-, hv⟩ := withValue_eq_ok_iff.1 h
    cases hv
    exact .inl ⟨.ptr v, rfl, trivial, fun c hc => hrest c (hr ▸ List.mem_cons_of_mem _ hc)⟩
  -- The mechanisms with a target.
  case h_9 | h_12 =>
    obtain ⟨hcheck, rfl⟩ := withTarget_eq_ok_iff.1 h
    exact .inl ⟨_, rfl, hcheck, by simp [Mechanism.value]⟩
  case h_10 v _ hr | h_13 v _ hr =>
    obtain ⟨-, hv⟩ := withValue_eq_ok_iff.1 h
    obtain ⟨hcheck, rfl⟩ := withTarget_eq_ok_iff.1 hv
    exact .inl ⟨_, rfl, hcheck, fun c hc => hrest c (hr ▸ List.mem_cons_of_mem _ hc)⟩
  case h_11 v _ hr | h_14 v _ hr =>
    obtain ⟨hcheck, rfl⟩ := withTarget_eq_ok_iff.1 h
    exact .inl ⟨_, rfl, hcheck, fun c hc => hrest c (hr ▸ hc)⟩
  case h_15 =>
    obtain ⟨hq, -, -, rfl⟩ := readModifier_eq_ok_iff.1 h
    exact .inr (.inr ⟨hq, rfl⟩)

end Read

/-! ## What is written -/

/-- A keyword is in small letters. -/
theorem Keyword.toLowerAscii_text (k : Keyword) : Text.toLowerAscii k.text = k.text := by
  cases k <;> decide

/-- A value that is not empty begins with a colon where it is written. -/
theorem isDelimiter_of_head?_afterColon (v : Text) :
    ∀ c ∈ (afterColon v).head?, isDelimiter c = true := by
  unfold afterColon
  cases v <;> simp [isDelimiter]

/-- A target that is not empty begins with a colon or a slash where it is written. -/
theorem isDelimiter_of_head?_afterKeyword (v : Text) :
    ∀ c ∈ (afterKeyword v).head?, isDelimiter c = true := by
  unfold afterKeyword
  split
  · rename_i hslash
    rw [hslash]
    simp [isDelimiter]
  · exact isDelimiter_of_head?_afterColon v

/-- What is written after a keyword is read as the value of the keyword. -/
theorem Body.ofText_text_append (k : Keyword) {rest : Text}
    (hr : ∀ c ∈ rest.head?, isDelimiter c = true) : ofText (k.text ++ rest) = ⟨some k, rest⟩ :=
  ofText_append k.toLowerAscii_text hr

/-- A mechanism that can be read is read from its canonical spelling. -/
theorem readBody_render {m : Mechanism} (h : m.IsReadable) (q : Qualifier) (qualified : Bool) :
    readBody q qualified m.render = .ok (.mechanism q m) := by
  have hcolon : ∀ (k : Keyword) (v : Text),
      Body.ofText (k.text ++ afterColon v) = ⟨some k, afterColon v⟩ :=
    fun k v => Body.ofText_text_append k (isDelimiter_of_head?_afterColon v)
  have htarget : ∀ (k : Keyword) (v : Text),
      Body.ofText (k.text ++ afterKeyword v) = ⟨some k, afterKeyword v⟩ :=
    fun k v => Body.ofText_text_append k (isDelimiter_of_head?_afterKeyword v)
  have hvalue : ∀ (k : Keyword) {v : Text}, v ≠ [] →
      Body.ofText (k.text ++ afterColon v) = ⟨some k, CodePoint.char ':' :: v⟩ := by
    intro k v hne
    rw [hcolon]
    simp [afterColon, hne]
  unfold readBody
  cases m with
  | all =>
    simp only [Mechanism.render, Mechanism.keyword, Mechanism.value, hcolon]
    rfl
  | includes v | existence v =>
    simp only [Mechanism.render, Mechanism.keyword, Mechanism.value, hvalue _ h]
    exact withValue_eq_ok_iff.2 ⟨h, by rfl⟩
  | ip4 v | ip6 v =>
    obtain ⟨hne, hnetwork⟩ := h
    simp only [Mechanism.render, Mechanism.keyword, Mechanism.value, hvalue _ hne]
    exact withValue_eq_ok_iff.2 ⟨hne, by exact if_pos hnetwork⟩
  | ptr v =>
    simp only [Mechanism.render, Mechanism.keyword, Mechanism.value, hcolon]
    cases v with
    | nil => rfl
    | cons c v => rfl
  | a v | mx v =>
    have hcheck : checkLengths v = .ok () := h
    simp only [Mechanism.render, Mechanism.keyword, htarget]
    -- The target is empty, begins with the slash of a length, or stands after a colon.
    cases v with
    | nil => exact withTarget_eq_ok_iff.2 ⟨hcheck, rfl⟩
    | cons c v =>
      by_cases hslash : c = '/'
      · subst hslash
        exact withTarget_eq_ok_iff.2 ⟨hcheck, rfl⟩
      · have hafter : afterKeyword (c :: v) = CodePoint.char ':' :: c :: v := by
          simp [afterKeyword, afterColon, hslash]
        simp only [hafter]
        exact withValue_eq_ok_iff.2
          ⟨List.cons_ne_nil c v, withTarget_eq_ok_iff.2 ⟨hcheck, rfl⟩⟩

/-- A mechanism is written with a letter in front, so it does not begin with the sign of a
qualifier. -/
theorem Mechanism.exists_render_eq_cons (m : Mechanism) :
    ∃ c rest, m.render = c :: rest ∧ Qualifier.ofSymbol? c = none := by
  unfold render
  cases m with
  | _ => exact ⟨_, _, rfl, by decide⟩

namespace Term

/-- A mechanism that can be read is read from its canonical spelling, with its qualifier. -/
theorem read_render_mechanism {m : Mechanism} (h : m.IsReadable) (q : Qualifier) :
    read (mechanism q m).render = .ok (.mechanism q m) := by
  obtain ⟨c, rest, hm, hc⟩ := m.exists_render_eq_cons
  have hsigned : ∀ q : Qualifier, read (q.symbol :: m.render) = .ok (.mechanism q m) := by
    intro q
    rw [read_cons_of_eq_some q.ofSymbol?_symbol, readBody_render h]
    simp [hm]
  cases q with
  | pass =>
    -- The sign is left out, and the keyword is no sign.
    show read m.render = _
    rw [hm, read_cons_of_eq_none hc, ← hm]
    exact readBody_render h _ _
  | fail => exact hsigned .fail
  | softFail => exact hsigned .softFail
  | neutral => exact hsigned .neutral

/-- A redirect to some domain is read from its canonical spelling. -/
theorem read_render_redirect {v : Text} (h : v ≠ []) :
    read (redirect v).render = .ok (.redirect v) := by
  have hbody : Body.ofText (Keyword.redirect.text ++ CodePoint.char '=' :: v) =
      ⟨some .redirect, CodePoint.char '=' :: v⟩ :=
    Body.ofText_text_append .redirect (by simp [isDelimiter])
  have hread : readBody .pass false (Keyword.redirect.text ++ CodePoint.char '=' :: v) =
      .ok (.redirect v) := by
    unfold readBody
    simp only [hbody, Bool.false_eq_true, if_false]
    exact withValue_eq_ok_iff.2 ⟨h, rfl⟩
  exact (read_cons_of_eq_none (by decide)).trans hread

/-- A term that is read is a mechanism that can be read, a redirect to some domain, or the token as
a modifier. What the term says stands in the token. -/
theorem read_eq_ok_cases {token : Text} {t : Term} (h : read token = .ok t) :
    (∃ (q : Qualifier) (m : Mechanism), t = .mechanism q m ∧ m.IsReadable ∧
        ∀ c ∈ m.value, c ∈ token) ∨
      (∃ v : Text, t = .redirect v ∧ v ≠ [] ∧ ∀ c ∈ v, c ∈ token) ∨
      t = .modifier token ∧ readBody .pass false token = .ok t := by
  cases token with
  | nil => cases h
  | cons c rest =>
    cases hc : Qualifier.ofSymbol? c with
    | none =>
      rw [read_cons_of_eq_none hc] at h
      obtain ⟨m, hm, hr, hv⟩ | ⟨v, hv, hne, hmem⟩ | ⟨-, ht⟩ := readBody_eq_ok_cases h
      · exact .inl ⟨.pass, m, hm, hr, hv⟩
      · exact .inr (.inl ⟨v, hv, hne, hmem⟩)
      · exact .inr (.inr ⟨ht, h⟩)
    | some q =>
      rw [read_cons_of_eq_some hc] at h
      split at h
      · cases h
      · obtain ⟨m, hm, hr, hv⟩ | ⟨v, hv, hne, hmem⟩ | ⟨hq, -⟩ := readBody_eq_ok_cases h
        · exact .inl ⟨q, m, hm, hr, fun c hc => List.mem_cons_of_mem _ (hv c hc)⟩
        · exact .inr (.inl ⟨v, hv, hne, fun c hc => List.mem_cons_of_mem _ (hmem c hc)⟩)
        · cases hq

/-- A term that was read is read again from its canonical spelling. -/
theorem read_render {token : Text} {t : Term} (h : read token = .ok t) : read t.render = .ok t := by
  obtain ⟨q, m, rfl, hm, -⟩ | ⟨v, rfl, hne, -⟩ | ⟨rfl, -⟩ := read_eq_ok_cases h
  · exact read_render_mechanism hm q
  · exact read_render_redirect hne
  · -- A modifier is written as the token that it was read from.
    exact h

/-- What is written for a term that was read stands in the token, or is no blank. -/
theorem mem_or_not_isBlank_of_mem_render {token : Text} {t : Term} (h : read token = .ok t)
    {c : CodePoint} (hc : c ∈ t.render) : c ∈ token ∨ isBlank c = false := by
  have hkeyword : ∀ (k : Keyword), ∀ c ∈ k.text, isBlank c = false := by
    intro k
    cases k <;> decide
  have hcolon : ∀ {v : Text}, c ∈ afterColon v → c ∈ v ∨ isBlank c = false := by
    intro v hc
    unfold afterColon at hc
    split at hc
    · cases hc
    · rcases List.mem_cons.1 hc with rfl | hc
      · exact .inr (by decide)
      · exact .inl hc
  have htarget : ∀ {v : Text}, c ∈ afterKeyword v → c ∈ v ∨ isBlank c = false := by
    intro v hc
    unfold afterKeyword at hc
    split at hc
    · exact .inl hc
    · exact hcolon hc
  obtain ⟨q, m, rfl, -, hv⟩ | ⟨v, rfl, -, hv⟩ | ⟨rfl, -⟩ := read_eq_ok_cases h
  · rcases List.mem_append.1 hc with hc | hc
    · -- The sign of a qualifier.
      have hsign : ∀ (q : Qualifier), ∀ c ∈ q.sign, isBlank c = false := by
        intro q
        cases q <;> decide
      exact .inr (hsign q c hc)
    · rcases List.mem_append.1 hc with hc | hc
      · exact .inr (hkeyword m.keyword c hc)
      · have hvalue : c ∈ m.value ∨ isBlank c = false := by
          cases m with
          | a v | mx v => exact htarget hc
          | _ => exact hcolon hc
        exact hvalue.imp_left (hv c)
  · rcases List.mem_append.1 hc with hc | hc
    · have hname : ∀ c ∈ ("redirect=" : Text), isBlank c = false := by decide
      exact .inr (hname c hc)
    · exact .inl (hv c hc)
  · exact .inl hc

end Term

end SenderPolicy
