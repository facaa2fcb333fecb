import SenderPolicy.Proofs.Term.TestOrder

/-!
# The spelling of terms

A token that is read as a term is shown in its canonical spelling: a plus sign in front of it is
dropped, and its keyword is in small letters (`Term.tidy`). A mechanism does not keep what stood
between its keyword and its value, so this has to be found again from the value. The one case in
which it is not found is an address mechanism with a colon but no host (`Term.IsHostless`): it is
read as if the colon were not there. `render_eq_spelling` says so of every token.

The proof goes by the grammar. A token of a mechanism is made up of a qualifier, a keyword and what
follows (`Term.IsComposed`), and its tidy spelling is made up of the same three (`Term.tidy_eq`).
-/

namespace SenderPolicy

/-! ## Tidy tokens -/

/-- A text without the plus sign in front of it, if there is one. -/
def Text.dropPlus (s : Text) : Text := if s.head? = some (.char '+') then s.tail else s

/-- A token without a plus sign in front and with its keyword, which ends before the first
delimiter, in small letters. -/
def Term.tidy (token : Text) : Text :=
  let (keyword, rest) := Text.cut isDelimiter (Text.dropPlus token)
  Text.lower keyword ++ rest

/-- The tokens that are made up of a qualifier, a keyword in capital or small letters, and
`rest`. -/
def Term.IsComposed (q : Qualifier) (k : Keyword) (rest token : Text) : Prop :=
  ∃ sign word : Text, q.IsWritten sign ∧ Text.toLowerAscii word = k.text ∧
    token = sign ++ (word ++ rest)

/-- The tokens of address mechanisms in which the colon after the keyword is followed by the slash
of a length and not by a host. -/
def Term.IsHostless (token : Text) : Prop :=
  ∃ (q : Qualifier) (k : Keyword) (v : Text), (k = .a ∨ k = .mx) ∧
    IsComposed q k (.char ':' :: .char '/' :: v) token

section Composed

variable {q : Qualifier} {k : Keyword} {sign word rest token v : Text}

/-- The sign of a qualifier is in ASCII, in small letters, and holds no delimiter. -/
theorem Qualifier.sign_facts (q : Qualifier) : (∀ c ∈ q.sign, c.toNat < 0x80) ∧
    Text.toLowerAscii q.sign = q.sign ∧ ∀ c ∈ q.sign, isDelimiter c = false := by
  cases q <;> decide

/-- A keyword is written in ASCII. -/
theorem Keyword.toNat_lt_of_mem_word (hw : Text.toLowerAscii word = k.text) :
    ∀ c ∈ word, c.toNat < 0x80 := by
  intro c hc
  have hmem : c.toLower ∈ k.text := hw ▸ List.mem_map_of_mem hc
  exact toNat_lt_of_isPlain_toLower (k.isPlain_of_mem_text _ hmem)

/-- Of the sign in front of a keyword, a plus sign is dropped. -/
theorem Qualifier.IsWritten.dropPlus (hs : q.IsWritten sign)
    (hw : Text.toLowerAscii word = k.text) :
    Text.dropPlus (sign ++ (word ++ rest)) = q.sign ++ (word ++ rest) := by
  obtain ⟨c, tail, rfl, hc⟩ := Keyword.exists_word_eq_cons hw
  rcases hs with rfl | ⟨rfl, rfl⟩
  · cases q <;> rfl
  · have hplus : c ≠ '+' := by
      rintro rfl
      exact absurd hc (by decide)
    simp [Text.dropPlus, Qualifier.sign, hplus]

/-- The tidy spelling of a token is made up of what the token is made up of. -/
theorem Term.tidy_eq (h : IsComposed q k rest token) (hr : ∀ c ∈ rest.head?, isDelimiter c = true) :
    tidy token = q.sign ++ (k.text ++ rest) := by
  obtain ⟨sign, word, hs, hw, rfl⟩ := h
  obtain ⟨hsignAscii, hsignLower, hsignDelimiter⟩ := q.sign_facts
  have hascii : ∀ c ∈ q.sign ++ word, c.toNat < 0x80 := fun c hc =>
    (List.mem_append.1 hc).elim (hsignAscii c) (Keyword.toNat_lt_of_mem_word hw c)
  have hdelimiter : ∀ c ∈ q.sign ++ word, isDelimiter c = false := fun c hc =>
    (List.mem_append.1 hc).elim (hsignDelimiter c) (isDelimiter_of_mem_word hw)
  obtain ⟨htake, hdrop⟩ := cut_append hdelimiter hr
  have hlower := lowerAfter_append_of_ascii (s := []) hascii []
  rw [List.append_nil, lowerAfter, List.append_nil] at hlower
  unfold tidy
  rw [hs.dropPlus hw, ← List.append_assoc]
  show Text.lower (((q.sign ++ word) ++ rest).takeWhile (!isDelimiter ·)) ++
    ((q.sign ++ word) ++ rest).dropWhile (!isDelimiter ·) = _
  rw [htake, hdrop, Text.lower, hlower, Text.toLowerAscii, List.map_append, ← Text.toLowerAscii,
    ← Text.toLowerAscii, hsignLower, hw, List.append_assoc]

/-- What follows the keyword of a token stands in the token. -/
theorem Term.IsComposed.mem {c : CodePoint} (h : IsComposed q k rest token) (hc : c ∈ rest) :
    c ∈ token := by
  obtain ⟨sign, word, -, -, rfl⟩ := h
  exact List.mem_append_right _ (List.mem_append_right _ hc)

/-- A token is read as the body after its qualifier, which is cut after the keyword. -/
theorem Term.exists_read_eq_readBody (h : IsComposed q k rest token)
    (hr : ∀ c ∈ rest.head?, isDelimiter c = true) :
    ∃ qualified body, read token = readBody q qualified body ∧
      Body.ofText body = ⟨some k, rest⟩ := by
  obtain ⟨sign, word, hs, hw, rfl⟩ := h
  have hbody := Body.ofText_append hw hr
  obtain ⟨c, tail, rfl, hc⟩ := Keyword.exists_word_eq_cons hw
  rcases hs with rfl | ⟨rfl, rfl⟩
  · exact ⟨true, _, read_cons_of_eq_some q.ofSymbol?_symbol, hbody⟩
  · exact ⟨false, _, read_cons_of_eq_none hc, hbody⟩

end Composed

/-! ## Address mechanisms -/

section Address

variable {q : Qualifier} {m : Text → Mechanism} {token token' v : Text}

/-- Two mechanisms have a target. -/
theorem exists_address_of_keyword {k : Keyword} (hk : k = .a ∨ k = .mx) :
    ∃ m : Text → Mechanism, (m = .a ∨ m = .mx) ∧ (m []).keyword = k := by
  rcases hk with rfl | rfl
  · exact ⟨.a, .inl rfl, rfl⟩
  · exact ⟨.mx, .inr rfl, rfl⟩

/-- A target after a colon must not be empty. -/
theorem Term.read_colon (hm : m = .a ∨ m = .mx)
    (h : IsComposed q (m []).keyword (.char ':' :: v) token) :
    read token = withValue (m []).keyword v fun v => withTarget v m q := by
  obtain ⟨qualified, body, hread, hbody⟩ := exists_read_eq_readBody h (by simp [isDelimiter])
  rw [hread]
  unfold readBody
  rw [hbody]
  rcases hm with rfl | rfl <;> rfl

/-- A length after a keyword is the target. -/
theorem Term.read_slash (hm : m = .a ∨ m = .mx)
    (h : IsComposed q (m []).keyword (.char '/' :: v) token) :
    read token = withTarget (.char '/' :: v) m q := by
  obtain ⟨qualified, body, hread, hbody⟩ := exists_read_eq_readBody h (by simp [isDelimiter])
  rw [hread]
  unfold readBody
  rw [hbody]
  rcases hm with rfl | rfl <;> rfl

/-- A colon without a host is read as if it were not there. -/
theorem Term.read_hostless (hm : m = .a ∨ m = .mx)
    (h : IsComposed q (m []).keyword (.char ':' :: .char '/' :: v) token)
    (h' : IsComposed q (m []).keyword (.char '/' :: v) token') : read token = read token' := by
  rw [read_colon hm h, read_slash hm h']
  rfl

end Address

/-! ## What a term is shown as -/

section Shown

variable {token token' : Text} {t : Term}

/-- A term other than a modifier is shown as the tidy token that it was read from, unless this has a
colon without a host. -/
theorem Term.tidy_eq_render (h : read token = .ok t) (ht : ∀ s, t ≠ .modifier s)
    (hhost : ¬ IsHostless token) : tidy token = t.render := by
  cases read_eq_ok_iff.1 h with
  | @mechanism q m sign word rest hs hw hm =>
    have hcomposed : IsComposed q m.keyword rest (sign ++ (word ++ rest)) :=
      ⟨sign, word, hs, hw, rfl⟩
    rw [tidy_eq hcomposed hm.isDelimiter_head?]
    show _ = q.sign ++ m.render
    unfold Mechanism.render
    cases hm with
    | all | ptr => rfl
    | domain hm hv =>
      rcases hm with rfl | rfl | rfl
      all_goals simp [afterColon, Mechanism.value, hv]
    | ip4 hv => simp [afterColon, Mechanism.value, Network.ne_nil_of_isNetwork (.inl hv)]
    | ip6 hv => simp [afterColon, Mechanism.value, Network.ne_nil_of_isNetwork (.inr hv)]
    | noTarget hm => rcases hm with rfl | rfl <;> rfl
    | @target m v hm hv ht =>
      -- The target begins with a host, so it is shown after a colon.
      have hslash : v.head? ≠ some (.char '/') := by
        intro hslash
        obtain ⟨v, rfl⟩ := List.head?_eq_some_iff.1 hslash
        refine hhost ⟨q, _, v, ?_, hcomposed⟩
        rcases hm with rfl | rfl
        · exact .inl rfl
        · exact .inr rfl
      rcases hm with rfl | rfl
      all_goals simp [afterKeyword, afterColon, hslash, hv]
    | lengths hm ht => rcases hm with rfl | rfl <;> rfl
  | @redirect word v hw hv =>
    have hcomposed : IsComposed .pass .redirect (.char '=' :: v) (word ++ .char '=' :: v) :=
      ⟨[], word, .inr ⟨rfl, rfl⟩, hw, rfl⟩
    rw [tidy_eq hcomposed (by simp [isDelimiter])]
    rfl
  | modifier => exact absurd rfl (ht _)

/-- What is read from a token that has a colon without a host is shown without the colon. -/
theorem Term.exists_of_isHostless (h : read token = .ok t) (hhost : IsHostless token) :
    ∃ (q : Qualifier) (m : Mechanism) (v : Text), t = .mechanism q m ∧ m.value = .char '/' :: v ∧
      tidy token = q.sign ++ (m.keyword.text ++ .char ':' :: m.value) ∧
      t.render = q.sign ++ (m.keyword.text ++ m.value) := by
  obtain ⟨q, k, v, hk, hcomposed⟩ := hhost
  obtain ⟨m, hm, rfl⟩ := exists_address_of_keyword hk
  have htidy := tidy_eq hcomposed (by simp [isDelimiter])
  rw [read_colon hm hcomposed] at h
  obtain ⟨-, rfl⟩ := withTarget_eq_ok_iff.1 (withValue_eq_ok_iff.1 h).2
  rcases hm with rfl | rfl
  · exact ⟨q, _, v, rfl, rfl, htidy, rfl⟩
  · exact ⟨q, _, v, rfl, rfl, htidy, rfl⟩

/-- What is shown without its colon is not the tidy token. -/
theorem Term.tidy_ne_render (h : read token = .ok t) (hhost : IsHostless token) :
    tidy token ≠ t.render := by
  obtain ⟨q, m, v, rfl, -, htidy, hrender⟩ := exists_of_isHostless h hhost
  intro heq
  have hlength := congrArg List.length heq
  rw [htidy, hrender] at hlength
  simp at hlength

/-- The tidy spellings of two tokens of one mechanism differ if just one of them has a colon without
a host. -/
theorem Term.tidy_eq_tidy_iff {q : Qualifier} {m : Mechanism}
    (h : read token = .ok (.mechanism q m)) (h' : read token' = .ok (.mechanism q m)) :
    tidy token = tidy token' ↔ (IsHostless token ↔ IsHostless token') := by
  have hmechanism : ∀ s, Term.mechanism q m ≠ .modifier s := fun s hs => by cases hs
  by_cases hhost : IsHostless token <;> by_cases hhost' : IsHostless token'
  · obtain ⟨q, m, v, hm, -, htidy, -⟩ := exists_of_isHostless h hhost
    obtain ⟨q', m', v', hm', -, htidy', -⟩ := exists_of_isHostless h' hhost'
    rw [hm] at hm'
    cases hm'
    simp [hhost, hhost', htidy, htidy']
  · have hne := tidy_ne_render h hhost
    rw [← tidy_eq_render h' hmechanism hhost'] at hne
    simp [hhost, hhost', hne]
  · have hne := tidy_ne_render h' hhost'
    rw [← tidy_eq_render h hmechanism hhost] at hne
    simp [hhost, hhost', Ne.symm hne]
  · simp [hhost, hhost', tidy_eq_render h hmechanism hhost, tidy_eq_render h' hmechanism hhost']

/-- A modifier is shown as it is written. Any other term is shown as the token that it was read from
without a plus sign and with its keyword in small letters, if and only if the token is not an
address mechanism with a colon but no host; then the colon alone is missing from what is shown. So
two tokens of one mechanism differ in a plus sign and the case of the keyword at most, unless just
one of them has such a colon. An address mechanism with nothing after the colon is malformed, and
one with a length after it is read as if the colon were not there. -/
theorem render_eq_spelling (token : Text) :
    (∀ s : Text, Term.read token = .ok (.modifier s) → (Term.modifier s).render = token) ∧
    (∀ t : Term, Term.read token = .ok t → (∀ s, t ≠ .modifier s) →
      (t.render = Term.tidy token ↔ ¬ Term.IsHostless token) ∧
      (Term.IsHostless token → ∃ front v : Text,
        Term.tidy token = front ++ .char ':' :: .char '/' :: v ∧
          t.render = front ++ .char '/' :: v)) ∧
    (∀ (token' : Text) (q : Qualifier) (m : Mechanism),
      Term.read token = .ok (.mechanism q m) → Term.read token' = .ok (.mechanism q m) →
      (Term.tidy token = Term.tidy token' ↔ (Term.IsHostless token ↔ Term.IsHostless token'))) ∧
    ∀ (q : Qualifier) (m : Text → Mechanism), m = .a ∨ m = .mx →
      (Term.IsComposed q (m []).keyword [.char ':'] token →
        Term.read token = .error (.malformed (.missingValue (m []).keyword))) ∧
      ∀ token' v : Text,
        Term.IsComposed q (m []).keyword (.char ':' :: .char '/' :: v) token →
        Term.IsComposed q (m []).keyword (.char '/' :: v) token' →
        Term.read token = Term.read token' := by
  refine ⟨fun s h => ?_, fun t h ht => ⟨⟨?_, ?_⟩, fun hhost => ?_⟩,
    fun token' q m h h' => Term.tidy_eq_tidy_iff h h',
    fun q m hm => ⟨fun h => Term.read_colon hm h,
      fun token' v h h' => Term.read_hostless hm h h'⟩⟩
  · obtain ⟨q, m, hm, -⟩ | ⟨v, hv, -⟩ | ⟨hs, -⟩ := Term.read_eq_ok_cases h
    · cases hm
    · cases hv
    · exact congrArg Term.render hs
  · intro heq hhost
    exact Term.tidy_ne_render h hhost heq.symm
  · intro hhost
    exact (Term.tidy_eq_render h ht hhost).symm
  · obtain ⟨q, m, v, rfl, hv, htidy, hrender⟩ := Term.exists_of_isHostless h hhost
    refine ⟨q.sign ++ m.keyword.text, v, ?_, ?_⟩
    · rw [htidy, hv, List.append_assoc]
    · rw [hrender, hv, List.append_assoc]

/-- Two tokens of one mechanism that differ in a plus sign and capital letters, and two of which one
has a colon without a host. -/
theorem mailExchanger_spelling :
    (Term.mechanism .pass (.mx "mail.example.com/24")).render =
        Term.tidy "+Mx:mail.example.com/24" ∧
      (Term.IsHostless "+Mx:mail.example.com/24" ↔ Term.IsHostless "mX:mail.example.com/24") ∧
      Term.read "a:" = .error (.malformed (.missingValue .a)) ∧
      Term.read "A:/24" = Term.read "a/24" := by
  obtain ⟨-, hshown, hsame, -⟩ := render_eq_spelling "+Mx:mail.example.com/24"
  have hread : Term.read "+Mx:mail.example.com/24" =
      .ok (.mechanism .pass (.mx "mail.example.com/24")) := rfl
  have hread' : Term.read "mX:mail.example.com/24" =
      .ok (.mechanism .pass (.mx "mail.example.com/24")) := rfl
  have htidy : Term.tidy "+Mx:mail.example.com/24" = Term.tidy "mX:mail.example.com/24" := by
    decide
  have hhost : ¬ Term.IsHostless "+Mx:mail.example.com/24" :=
    (hshown _ hread (fun s hs => by cases hs)).1.1 (by decide)
  refine ⟨(hshown _ hread (fun s hs => by cases hs)).1.2 hhost,
    (hsame _ _ _ hread hread').1 htidy, ?_, ?_⟩
  · obtain ⟨-, -, -, haddress⟩ := render_eq_spelling "a:"
    exact (haddress .pass .a (.inl rfl)).1 ⟨[], "a", .inr ⟨rfl, rfl⟩, rfl, rfl⟩
  · obtain ⟨-, -, -, haddress⟩ := render_eq_spelling "A:/24"
    refine (haddress .pass .a (.inl rfl)).2 "a/24" "24" ?_ ?_
    · exact ⟨[], "A", .inr ⟨rfl, rfl⟩, rfl, rfl⟩
    · exact ⟨[], "a", .inr ⟨rfl, rfl⟩, rfl, rfl⟩

/-- A colon without a host is accepted in front of a length, and is not shown. -/
theorem hostless_accepted :
    Term.read "a:/24" = .ok (.mechanism .pass (.a "/24")) ∧
      (Term.mechanism .pass (.a "/24")).render = "a/24" ∧
      (Term.mechanism .pass (.a "/24")).render ≠ Term.tidy "a:/24" := by
  refine ⟨rfl, rfl, ?_⟩
  decide

end Shown

end SenderPolicy
