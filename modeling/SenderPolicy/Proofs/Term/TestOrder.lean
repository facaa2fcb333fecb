import SenderPolicy.Proofs.Term.Grammar

/-!
# Reading terms by tests

A body can be read by a list of tests, of which the first that passes decides. Every test looks at
the lower case of the body for a keyword and the delimiter after it, and cuts the value off from the
body as it is written. The lower case of a text may be longer than the text, and some letters
outside ASCII have small letters in ASCII. But the openings that the tests look for are plain, so a
text whose lower case has such an opening spells it with as many characters (`opening_iff`).

So a test passes if its keyword and delimiter are those of the body (`BodyTest.passes_iff`), and
then it decides as `readBody` does. Hence the order of the tests is of no account.
`reading_follows_grammar` says so, and that what is read are the tokens of the grammar.
-/

namespace SenderPolicy

/-! ## Tests -/

/-- A test of a body. -/
structure BodyTest where
  /-- The keyword that is looked for. -/
  keyword : Keyword
  /-- The delimiter that must follow it; if there is none, nothing may follow. -/
  delimiter : Option CodePoint
  /-- The term of a value, given the qualifier and whether that is written. -/
  term : (q : Qualifier) → (qualified : Bool) → (value : Text) → Except TokenError Term

namespace BodyTest

variable (t : BodyTest)

/-- What the lower case of a body must be, or begin with if there is a delimiter. -/
def opening : Text := t.keyword.text ++ t.delimiter.toList

/-- Whether a body with the lower case `lowered` passes the test. -/
def passes (lowered : Text) : Bool :=
  if t.delimiter.isSome then t.opening.isPrefixOf lowered else lowered = t.opening

/-- The value in a body that passes the test, which is cut off after as many characters as the
opening has. A slash belongs to the value. -/
def value (body : Text) : Text :=
  body.drop (if t.delimiter = some (.char '/') then t.keyword.text.length else t.opening.length)

/-- The test for a mechanism that is a keyword alone. -/
def alone (k : Keyword) (m : Mechanism) : BodyTest where
  keyword := k
  delimiter := none
  term q _ _ := .ok (.mechanism q m)

/-- The test for a mechanism with a value. -/
def valued (k : Keyword) (m : Text → Mechanism) : BodyTest where
  keyword := k
  delimiter := some (.char ':')
  term q _ v := withValue k v fun v => .ok (.mechanism q (m v))

/-- The test for a mechanism with a network. -/
def network (k : Keyword) (m : Text → Mechanism) (isNetwork : Text → Bool) (bad : Malformation) :
    BodyTest where
  keyword := k
  delimiter := some (.char ':')
  term q _ v := withValue k v fun v =>
    if isNetwork v then .ok (.mechanism q (m v)) else .error (.malformed bad)

/-- The tests for a mechanism with a target, which may be left out. -/
def targeted (k : Keyword) (m : Text → Mechanism) : List BodyTest :=
  [⟨k, none, fun q _ v => withTarget v m q⟩,
   ⟨k, some (.char ':'), fun q _ v => withValue k v fun v => withTarget v m q⟩,
   ⟨k, some (.char '/'), fun q _ v => withTarget v m q⟩]

/-- The test for a redirect, which takes no qualifier. -/
def redirecting : BodyTest where
  keyword := .redirect
  delimiter := some (.char '=')
  term _ qualified v :=
    if qualified then .error (.malformed .qualifiedModifier)
    else withValue .redirect v fun v => .ok (.redirect v)

/-- The tests of a body, in one order of many. -/
def standard : List BodyTest :=
  [alone .all .all, valued .includes .includes, valued .existence .existence,
    network .ip4 .ip4 Network.V4.isNetwork .badNetwork4,
    network .ip6 .ip6 Network.V6.isNetwork .badNetwork6,
    redirecting, alone .ptr (.ptr []), valued .ptr .ptr] ++
  targeted .a .a ++ targeted .mx .mx

end BodyTest

/-- The term of a body by tests of which the first that passes decides. A body that passes none may
be a modifier. -/
def readBodyBy (tests : List BodyTest) (q : Qualifier) (qualified : Bool) (body : Text) :
    Except TokenError Term :=
  match tests.find? (·.passes (Text.lower body)) with
  | some t => t.term q qualified (t.value body)
  | none => readModifier qualified body

/-- The term of a token by tests of its body. -/
def Term.readBy (tests : List BodyTest) : Text → Except TokenError Term
  | [] => .error .empty
  | c :: rest =>
    match Qualifier.ofSymbol? c with
    | none => readBodyBy tests .pass false (c :: rest)
    | some q =>
      if rest.isEmpty then .error (.malformed .bareQualifier) else readBodyBy tests q true rest

/-! ## Openings -/

/-- The small letter of a character is plain only if the character is in ASCII. -/
theorem toNat_lt_of_isPlain_toLower {c : CodePoint} (h : IsPlain c.toLower) : c.toNat < 0x80 := by
  cases c with
  | half n => exact h.1
  | char c =>
    have hlow : c.toLower.toNat < 0x80 := h.1
    unfold Char.toLower at hlow
    split at hlow
    · rename_i hcapital
      have hle : c.toNat ≤ 'Z'.toNat := UInt32.le_iff_toNat_le.1 hcapital.2
      exact Nat.lt_of_le_of_lt hle (by decide)
    · exact hlow

/-- The delimiters are plain. -/
theorem isPlain_of_isDelimiter {c : CodePoint} (h : isDelimiter c = true) : IsPlain c := by
  unfold IsPlain
  rcases isDelimiter_iff.1 h with rfl | rfl | rfl <;> decide

/-- The small letter of a character is a delimiter only if the character is. -/
theorem eq_of_isDelimiter_toLower {c : CodePoint} (h : isDelimiter c.toLower = true) :
    c.toLower = c := by
  have hascii : ∀ n : Fin 0x80, isDelimiter (CodePoint.ofNat n).toLower = true →
      (CodePoint.ofNat n).toLower = CodePoint.ofNat n := by
    decide +kernel
  have hc := hascii ⟨c.toNat, toNat_lt_of_isPlain_toLower (isPlain_of_isDelimiter h)⟩
  rw [CodePoint.ofNat_toNat] at hc
  exact hc h

/-- A delimiter is its own small letter. -/
theorem toLower_of_isDelimiter {c : CodePoint} (h : isDelimiter c = true) : c.toLower = c := by
  rcases isDelimiter_iff.1 h with rfl | rfl | rfl <;> decide

/-- The lower case of a text in ASCII is that of its letters, whatever follows it. -/
theorem lowerAfter_append_of_ascii {word s : Text} (h : ∀ c ∈ word, c.toNat < 0x80) :
    ∀ before, lowerAfter before (word ++ s) =
      Text.toLowerAscii word ++ lowerAfter (word.reverse ++ before) s := by
  induction word with
  | nil => exact fun _ => rfl
  | cons c word ih =>
    intro before
    have hc := h c List.mem_cons_self
    have hI : c ≠ '\u0130' := by
      rintro rfl
      exact absurd hc (by decide)
    have hsigma : c ≠ 'Σ' := by
      rintro rfl
      exact absurd hc (by decide)
    have hlower : lowerChar c = c.toLower := if_pos hc
    have hrest := ih (fun d hd => h d (List.mem_cons_of_mem _ hd)) (c :: before)
    simp [lowerAfter, hI, hsigma, hlower, hrest, Text.toLowerAscii]

/-- The lower case of a text begins with a plain word and a delimiter if and only if the text begins
with the word, in capital or small letters, and the delimiter. -/
theorem opening_iff {before p s : Text} {d : CodePoint} (hp : ∀ c ∈ p, IsPlain c)
    (hd : isDelimiter d = true) : p ++ [d] <+: lowerAfter before s ↔
      ∃ word v, s = word ++ d :: v ∧ Text.toLowerAscii word = p := by
  constructor
  · intro h
    induction p generalizing before s with
    | nil =>
      cases s with
      | nil => simp [lowerAfter] at h
      | cons c rest =>
        obtain ⟨d', lowered, hlower, hcases⟩ := exists_lowerAfter_cons before rest c
        rw [hlower] at h
        obtain ⟨rfl, -⟩ := List.cons_prefix_cons.1 h
        obtain ⟨-, rfl, -⟩ | ⟨rfl, -⟩ := hcases (isPlain_of_isDelimiter hd)
        · exact ⟨[], rest, by rw [eq_of_isDelimiter_toLower hd]; rfl, rfl⟩
        · exact absurd hd (by decide)
    | cons x p ih =>
      cases s with
      | nil => simp [lowerAfter] at h
      | cons c rest =>
        obtain ⟨d', lowered, hlower, hcases⟩ := exists_lowerAfter_cons before rest c
        rw [hlower] at h
        obtain ⟨rfl, hprefix⟩ := List.cons_prefix_cons.1 h
        have hp' : ∀ c ∈ p, IsPlain c := fun c hc => hp c (List.mem_cons_of_mem _ hc)
        obtain ⟨-, rfl, rfl⟩ | ⟨-, hdot⟩ := hcases (hp _ List.mem_cons_self)
        · obtain ⟨word, v, rfl, rfl⟩ := ih hp' hprefix
          exact ⟨c :: word, v, rfl, rfl⟩
        · -- The dot would have to be the next character of the word, or the delimiter.
          obtain ⟨more, rfl⟩ := hprefix
          cases p with
          | nil =>
            obtain rfl := Option.some.inj hdot
            exact absurd hd (by decide)
          | cons y p =>
            obtain rfl := Option.some.inj hdot
            exact absurd (hp' _ List.mem_cons_self).1 (by decide)
  · rintro ⟨word, v, rfl, rfl⟩
    have hascii : ∀ c ∈ word ++ [d], c.toNat < 0x80 := by
      intro c hc
      rcases List.mem_append.1 hc with hc | hc
      · exact toNat_lt_of_isPlain_toLower (hp _ (List.mem_map_of_mem hc))
      · rw [List.mem_singleton.1 hc]
        exact (isPlain_of_isDelimiter hd).1
    have hlower : lowerAfter before (word ++ [d] ++ v) =
        Text.toLowerAscii (word ++ [d]) ++ lowerAfter ((word ++ [d]).reverse ++ before) v :=
      lowerAfter_append_of_ascii hascii before
    have hopening : Text.toLowerAscii (word ++ [d]) = Text.toLowerAscii word ++ [d] := by
      simp [Text.toLowerAscii, toLower_of_isDelimiter hd]
    rw [hopening] at hlower
    have happend : word ++ d :: v = word ++ [d] ++ v := by simp
    rw [happend, hlower]
    exact List.prefix_append _ _

/-- The lower case of a text is a plain word if and only if the text is the word, in capital or
small letters. -/
theorem lower_eq_iff {p s : Text} (hp : ∀ c ∈ p, IsPlain c) :
    Text.lower s = p ↔ Text.toLowerAscii s = p := by
  constructor
  · rintro rfl
    exact (lowerAfter_eq_toLowerAscii hp).symm
  · rintro rfl
    have hascii : ∀ c ∈ s, c.toNat < 0x80 := fun c hc =>
      toNat_lt_of_isPlain_toLower (hp _ (List.mem_map_of_mem hc))
    have hlower := lowerAfter_append_of_ascii (s := []) hascii []
    rwa [List.append_nil, lowerAfter, List.append_nil] at hlower

/-- A keyword is plain. -/
theorem Keyword.isPlain_of_mem_text (k : Keyword) : ∀ c ∈ k.text, IsPlain c := by
  unfold IsPlain
  cases k <;> decide

/-! ## Tests that pass -/

namespace BodyTest

variable {t : BodyTest} {body : Text}

/-- The keywords of the tests end where bodies have a delimiter. -/
theorem isDelimiter_of_mem_standard (ht : t ∈ standard) :
    ∀ d ∈ t.delimiter, isDelimiter d = true := by
  have hall : ∀ d ∈ standard.filterMap delimiter, isDelimiter d = true := by decide
  exact fun d hd => hall d (List.mem_filterMap.2 ⟨t, ht, hd⟩)

/-- A test passes if its keyword and delimiter are those of the body. -/
theorem passes_iff (ht : t ∈ standard) :
    t.passes (Text.lower body) = true ↔
      (Body.ofText body).keyword = some t.keyword ∧
        (Body.ofText body).rest.head? = t.delimiter := by
  have hplain := t.keyword.isPlain_of_mem_text
  have hdelimiter := isDelimiter_of_mem_standard ht
  unfold passes opening
  cases hd : t.delimiter with
  | none =>
    simp only [Option.isSome_none, Bool.false_eq_true, if_false, Option.toList_none,
      List.append_nil, decide_eq_true_eq, List.head?_eq_none_iff]
    rw [lower_eq_iff hplain, Body.ofText_iff]
    simp
  | some d =>
    have hd' := hdelimiter d hd
    simp only [Option.isSome_some, if_true, Option.toList_some, List.isPrefixOf_iff_prefix,
      List.head?_eq_some_iff]
    rw [Text.lower, opening_iff hplain hd']
    constructor
    · rintro ⟨word, v, rfl, hw⟩
      have hhead : ∀ c ∈ (d :: v).head?, isDelimiter c = true := by simpa using hd'
      obtain ⟨hk, hr⟩ := Body.ofText_iff.2 ⟨word, rfl, hw, hhead⟩
      exact ⟨hk, v, hr⟩
    · rintro ⟨hk, v, hr⟩
      obtain ⟨word, hbody, hw, -⟩ := Body.ofText_iff.1 ⟨hk, hr⟩
      exact ⟨word, v, hbody, hw⟩

/-- The value is what follows the delimiter in the body; a slash belongs to it. -/
theorem value_eq (hk : (Body.ofText body).keyword = some t.keyword) :
    t.value body = if t.delimiter = some (.char '/') then (Body.ofText body).rest
      else (Body.ofText body).rest.drop t.delimiter.toList.length := by
  obtain ⟨word, hbody, hw, -⟩ := Body.ofText_iff.1 ⟨hk, rfl⟩
  -- The word has as many characters as the keyword.
  have hlength : word.length = t.keyword.text.length := by
    rw [← hw]
    exact (List.length_map _).symm
  have hdrop : body.drop t.keyword.text.length = (Body.ofText body).rest := by
    generalize (Body.ofText body).rest = rest at hbody ⊢
    rw [hbody, ← hlength, List.drop_left]
  unfold value opening
  split
  · exact hdrop
  · rw [List.length_append, ← hdrop, List.drop_drop]

/-- A test that passes decides as the reading of the body does. -/
theorem term_value_eq_readBody (ht : t ∈ standard) (hpasses : t.passes (Text.lower body) = true)
    (q : Qualifier) (qualified : Bool) :
    t.term q qualified (t.value body) = readBody q qualified body := by
  obtain ⟨hk, hd⟩ := (passes_iff ht).1 hpasses
  rw [value_eq hk]
  unfold readBody
  simp only [standard, targeted, List.cons_append, List.nil_append, List.mem_cons,
    List.not_mem_nil, or_false] at ht
  rcases ht with rfl | rfl | rfl | rfl | rfl | rfl | rfl | rfl | rfl | rfl | rfl | rfl | rfl | rfl
  all_goals
    rw [hk]
    first
    | rw [List.head?_eq_none_iff.1 hd]
      rfl
    | obtain ⟨v, hv⟩ := List.head?_eq_some_iff.1 hd
      rw [hv]
      rfl

/-- A body that passes no test is read as a modifier. -/
theorem readBody_eq_readModifier (h : ∀ t ∈ standard, ¬ t.passes (Text.lower body) = true)
    (q : Qualifier) (qualified : Bool) :
    readBody q qualified body = readModifier qualified body := by
  have hform : ((Body.ofText body).keyword, (Body.ofText body).rest.head?) ∉
      standard.map fun t => (some t.keyword, t.delimiter) := by
    intro hmem
    obtain ⟨t, ht, heq⟩ := List.mem_map.1 hmem
    obtain ⟨hk, hd⟩ := Prod.mk.inj heq
    exact h t ht ((passes_iff ht).2 ⟨hk.symm, hd.symm⟩)
  unfold readBody
  split
  case h_15 => rfl
  -- In every other case the keyword and the delimiter are those of a test.
  all_goals
    rename_i hk hr
    rw [hk, hr] at hform
    simp only [List.head?_nil, List.head?_cons] at hform
    exact absurd (by decide) hform

/-- The tests read a body as `readBody` does, in whatever order they stand. -/
theorem readBodyBy_eq_readBody {tests : List BodyTest} (h : tests.Perm standard) (q : Qualifier)
    (qualified : Bool) (body : Text) :
    readBodyBy tests q qualified body = readBody q qualified body := by
  unfold readBodyBy
  cases hfind : tests.find? (·.passes (Text.lower body)) with
  | none =>
    have hnone : ∀ t ∈ standard, ¬ t.passes (Text.lower body) = true :=
      fun t ht => List.find?_eq_none.1 hfind t (h.mem_iff.2 ht)
    exact (readBody_eq_readModifier hnone q qualified).symm
  | some t =>
    have ht : t ∈ standard := h.mem_iff.1 (List.mem_of_find?_eq_some hfind)
    have hpasses := List.find?_some hfind
    exact term_value_eq_readBody ht hpasses q qualified

end BodyTest

/-- The tests read a token as `read` does, in whatever order they stand. -/
theorem Term.readBy_eq_read {tests : List BodyTest} (h : tests.Perm BodyTest.standard)
    (token : Text) : readBy tests token = read token := by
  cases token with
  | nil => rfl
  | cons c rest =>
    cases hq : Qualifier.ofSymbol? c with
    | none => simp only [readBy, read, hq, BodyTest.readBodyBy_eq_readBody h]
    | some q => simp only [readBy, read, hq, BodyTest.readBodyBy_eq_readBody h]

/-- The reading of terms follows their grammar. A token is read as a term if and only if the grammar
has it for that term, so for no other one. Any other token that is not empty is found malformed,
unless its target is oversized, at which the reading breaks off. The first test that a body passes
decides likewise, in whatever order the tests stand. -/
theorem reading_follows_grammar :
    (∀ (token : Text) (t : Term), Term.read token = .ok t ↔ t.IsSpelled token) ∧
    (∀ token : Text, token ≠ [] → (¬ ∃ t : Term, t.IsSpelled token) →
      (∃ m, Term.read token = .error (.malformed m)) ∨
        Term.IsOversized token ∧ ∃ n, Term.read token = .error (.oversized n)) ∧
    ∀ (tests : List BodyTest) (token : Text), tests.Perm BodyTest.standard →
      Term.readBy tests token = Term.read token := by
  refine ⟨fun token t => Term.read_eq_ok_iff, fun token hne hnot => ?_,
    fun tests token h => Term.readBy_eq_read h token⟩
  rcases read_cases hne with ⟨t, ht⟩ | hmalformed | hoversized
  · exact absurd ⟨t, Term.read_eq_ok_iff.1 ht⟩ hnot
  · exact .inl hmalformed
  · exact .inr ⟨oversized_read_iff.1 hoversized, hoversized⟩

/-- With the tests in the opposite order, a mechanism with both lengths is read as what it is. The
lower case of the capital I with a dot begins with an i, but no keyword begins with this letter. -/
theorem reversedTests_read :
    Term.readBy BodyTest.standard.reverse "~Mx:a/24//64" =
        .ok (.mechanism .softFail (.mx "a/24//64")) ∧
      (∃ m, Term.read ("\u0130p4:192.0.2.1" : Text) = .error (.malformed m)) := by
  obtain ⟨hgrammar, hother, horder⟩ := reading_follows_grammar
  constructor
  · rw [horder _ _ (List.reverse_perm _)]
    rfl
  · have hread : Term.read ("\u0130p4:192.0.2.1" : Text) =
        .error (.malformed .unknownMechanism) := rfl
    have hnot : ¬ ∃ t : Term, t.IsSpelled "\u0130p4:192.0.2.1" := by
      rintro ⟨t, ht⟩
      have hok := (hgrammar _ _).2 ht
      rw [hread] at hok
      cases hok
    refine (hother _ (by decide) hnot).resolve_right ?_
    rintro ⟨-, n, hn⟩
    rw [hread] at hn
    cases hn

end SenderPolicy
