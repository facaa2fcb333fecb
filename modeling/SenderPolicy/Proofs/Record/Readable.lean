import SenderPolicy.Proofs.Term.Oversized
import SenderPolicy.Record

/-!
# Records that can be read

A record is read token by token, and `ofTokens_cons_eq_ok_iff` says what one token adds to a
reading. So the only records that cannot be read are those with an oversized token
(`exists_read_iff`). Of a record that can be read, every token is one of its terms or malformed, and
a malformed token leaves the record with a diagnostic (`terms_of_read`,
`isWellFormed_of_malformed`).
-/

namespace SenderPolicy

/-- A result that a function takes to a value was returned. -/
theorem exists_ok_of_map_toOption {ε α β : Type} {x : Except ε α} (f : α → β) {b : β}
    (h : x.toOption.map f = some b) : ∃ a, x = .ok a ∧ f a = b := by
  cases x with
  | error e => cases h
  | ok a => exact ⟨a, rfl, Option.some.inj h⟩

namespace Reading

/-- A token adds its term, or the diagnostic that it is malformed. -/
theorem ofTokens_cons_eq_ok_iff {seen tokens : List Text} {token : Text} {r : Reading} :
    ofTokens seen (token :: tokens) = .ok r ↔
      (∃ t rest, Term.read token = .ok t ∧
        ofTokens (t.countedName?.toList ++ seen) tokens = .ok rest ∧
        r = ⟨t :: rest.terms, repetition seen t ++ rest.diagnostics⟩) ∨
      ∃ m rest, Term.read token = .error (.malformed m) ∧ ofTokens seen tokens = .ok rest ∧
        r = ⟨rest.terms, .malformed token m :: rest.diagnostics⟩ := by
  have hmap : ∀ {x : Except Abort Reading} {f : Reading → Reading},
      x.map f = .ok r ↔ ∃ rest, x = .ok rest ∧ r = f rest := by
    intro x f
    cases x <;> simp [Except.map, eq_comm]
  rw [ofTokens]
  cases hread : Term.read token with
  | ok t => simp [hmap]
  | error e => cases e <;> simp [hmap]

/-- Tokens can be read if none of them is oversized. -/
theorem exists_ofTokens_iff (seen : List Text) {tokens : List Text}
    (hne : ∀ token ∈ tokens, token ≠ []) :
    (∃ r, ofTokens seen tokens = .ok r) ↔ ∀ token ∈ tokens, ¬ Term.IsOversized token := by
  induction tokens generalizing seen with
  | nil => simp [ofTokens]
  | cons token tokens ih =>
    have htoken := read_ok_or_malformed_iff (hne token List.mem_cons_self)
    have hrest : ∀ {seen}, (∃ r, ofTokens seen tokens = .ok r) ↔
        ∀ token ∈ tokens, ¬ Term.IsOversized token :=
      fun {seen} => ih seen fun t ht => hne t (List.mem_cons_of_mem _ ht)
    -- A token lets the reading go on if it is a term or malformed, that is, if it is not oversized.
    rw [List.forall_mem_cons, ← htoken]
    simp only [ofTokens_cons_eq_ok_iff]
    constructor
    · rintro ⟨r, ⟨t, rest, ht, hr, -⟩ | ⟨m, rest, hm, hr, -⟩⟩
      · exact ⟨.inl ⟨t, ht⟩, hrest.1 ⟨rest, hr⟩⟩
      · exact ⟨.inr ⟨m, hm⟩, hrest.1 ⟨rest, hr⟩⟩
    · rintro ⟨⟨t, ht⟩ | ⟨m, hm⟩, hall⟩
      · obtain ⟨rest, hr⟩ := hrest.2 hall
        exact ⟨_, .inl ⟨t, rest, ht, hr, rfl⟩⟩
      · obtain ⟨rest, hr⟩ := hrest.2 hall
        exact ⟨_, .inr ⟨m, rest, hm, hr, rfl⟩⟩

/-- The terms of a reading are those of its tokens, in their order. -/
theorem terms_of_ofTokens {seen tokens : List Text} {r : Reading}
    (h : ofTokens seen tokens = .ok r) :
    r.terms = tokens.filterMap fun token => (Term.read token).toOption := by
  induction tokens generalizing seen r with
  | nil =>
    cases h
    rfl
  | cons token tokens ih =>
    obtain ⟨t, rest, ht, hr, rfl⟩ | ⟨m, rest, hm, hr, rfl⟩ := ofTokens_cons_eq_ok_iff.1 h
    · rw [List.filterMap_cons_some (by rw [ht]; rfl), ← ih hr]
    · rw [List.filterMap_cons_none (by rw [hm]; rfl), ← ih hr]

/-- Every malformed token of a reading has its diagnostic. -/
theorem malformed_mem_diagnostics {seen tokens : List Text} {r : Reading} {token : Text}
    {m : Malformation} (h : ofTokens seen tokens = .ok r) (ht : token ∈ tokens)
    (hm : Term.read token = .error (.malformed m)) : .malformed token m ∈ r.diagnostics := by
  induction tokens generalizing seen r with
  | nil => cases ht
  | cons token' tokens ih =>
    obtain ⟨t, rest, hread, hr, rfl⟩ | ⟨m', rest, hread, hr, rfl⟩ := ofTokens_cons_eq_ok_iff.1 h
    · rcases List.mem_cons.1 ht with rfl | ht
      · rw [hm] at hread
        cases hread
      · exact List.mem_append_right _ (ih hr ht)
    · rcases List.mem_cons.1 ht with rfl | ht
      · rw [hm] at hread
        cases hread
        exact List.mem_cons_self
      · exact List.mem_cons_of_mem _ (ih hr ht)

/-- A second term of a name leaves the diagnostic of that name. -/
theorem mem_repetition {seen : List Text} {t : Term} {d : Diagnostic}
    (h : d ∈ repetition seen t) : ∃ name, d = .repeated name := by
  unfold repetition at h
  split at h
  · rename_i name hname
    split at h
    · exact ⟨name, List.mem_singleton.1 h⟩
    · cases h
  · cases h

/-- No token leaves the diagnostic of a missing version tag. -/
theorem noVersion_notMem_diagnostics {seen tokens : List Text} {r : Reading}
    (h : ofTokens seen tokens = .ok r) : .noVersion ∉ r.diagnostics := by
  induction tokens generalizing seen r with
  | nil =>
    cases h
    exact List.not_mem_nil
  | cons token tokens ih =>
    intro hmem
    obtain ⟨t, rest, -, hr, rfl⟩ | ⟨m, rest, -, hr, rfl⟩ := ofTokens_cons_eq_ok_iff.1 h
    · rcases List.mem_append.1 hmem with hmem | hmem
      · obtain ⟨name, hname⟩ := mem_repetition hmem
        cases hname
      · exact ih hr hmem
    · rcases List.mem_cons.1 hmem with hmem | hmem
      · cases hmem
      · exact ih hr hmem

end Reading

namespace Record

/-- No token of a text is oversized, if the text is an SPF record. -/
def Readable (raw : Text) : Prop :=
  isSpfRecord raw = true → ∀ token ∈ tokens raw, ¬ Term.IsOversized token

variable {raw domain : Text} {r : Record}

/-- A record is the reading of its tokens after the version tag. -/
theorem read_eq_ok_iff (hraw : isSpfRecord raw = true) : read raw domain = .ok r ↔
    ∃ rd, Reading.ofTokens [] (tokens raw) = .ok rd ∧
      r = ⟨raw, domain, .version :: rd.terms, rd.diagnostics.head?⟩ := by
  unfold read
  rw [if_pos hraw]
  cases Reading.ofTokens [] (tokens raw) <;> simp [Except.map, eq_comm]

/-- A text can be read if no token of it is oversized. -/
theorem exists_read_iff (domain : Text) : (∃ r, read raw domain = .ok r) ↔ Readable raw := by
  unfold Readable
  cases hraw : isSpfRecord raw with
  | false => simp [read, hraw]
  | true =>
    have hne : ∀ token ∈ tokens raw, token ≠ [] := fun token => Text.ne_nil_of_mem_words
    rw [forall_prop_of_true rfl, ← Reading.exists_ofTokens_iff [] hne]
    simp only [read_eq_ok_iff hraw]
    constructor
    · rintro ⟨r, rd, hrd, -⟩
      exact ⟨rd, hrd⟩
    · rintro ⟨rd, hrd⟩
      exact ⟨_, rd, hrd, rfl⟩

/-- The terms of a record are the version tag and the terms of its tokens, in their order. -/
theorem terms_of_read (hraw : isSpfRecord raw = true) (h : read raw domain = .ok r) :
    r.terms = .version :: (tokens raw).filterMap fun token => (Term.read token).toOption := by
  obtain ⟨rd, hrd, rfl⟩ := (read_eq_ok_iff hraw).1 h
  rw [← Reading.terms_of_ofTokens hrd]

/-- A record with a malformed token is not well formed. -/
theorem isWellFormed_of_malformed (hraw : isSpfRecord raw = true) (h : read raw domain = .ok r)
    {token : Text} {m : Malformation} (ht : token ∈ tokens raw)
    (hm : Term.read token = .error (.malformed m)) : r.isWellFormed = false := by
  obtain ⟨rd, hrd, rfl⟩ := (read_eq_ok_iff hraw).1 h
  -- The diagnostic of the record is the first one, which need not be that of the token.
  have hmem := Reading.malformed_mem_diagnostics hrd ht hm
  cases hd : rd.diagnostics with
  | nil =>
    rw [hd] at hmem
    cases hmem
  | cons d ds => simp [isWellFormed]

/-- The text of an SPF record has the version tag when it is read. -/
theorem hasVersion_of_read (hraw : isSpfRecord raw = true) (h : read raw domain = .ok r) :
    r.hasVersion = true := by
  obtain ⟨rd, hrd, rfl⟩ := (read_eq_ok_iff hraw).1 h
  -- The only diagnostic of a missing tag is that of a text which is no SPF record.
  have hnot : rd.diagnostics.head? ≠ some .noVersion := fun hd =>
    Reading.noVersion_notMem_diagnostics hrd (List.mem_of_head? hd)
  simpa [hasVersion] using hnot

/-- A record without version tag has no terms. -/
theorem terms_eq_nil_of_read (h : read raw domain = .ok r) (hr : r.hasVersion = false) :
    r.terms = [] := by
  cases hraw : isSpfRecord raw with
  | true =>
    rw [hasVersion_of_read hraw h] at hr
    cases hr
  | false =>
    simp only [read, hraw, Bool.false_eq_true, if_false, Except.ok.injEq] at h
    rw [← h]

/-- A record that is read for a domain is a record of the domain. -/
theorem domain_of_read (h : read raw domain = .ok r) : r.domain = domain := by
  cases hraw : isSpfRecord raw with
  | true =>
    obtain ⟨rd, -, rfl⟩ := (read_eq_ok_iff hraw).1 h
    rfl
  | false =>
    simp only [read, hraw, Bool.false_eq_true, if_false, Except.ok.injEq] at h
    rw [← h]

end Record

end SenderPolicy
