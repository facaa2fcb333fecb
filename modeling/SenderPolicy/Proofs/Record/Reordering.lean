import SenderPolicy.Proofs.Record.Readable

/-!
# Records whose tokens are reordered

The order of the tokens of a record decides the order of its terms and which of its diagnostics is
the first. It does not decide whether there is a diagnostic. A reading keeps the names that it has
seen, so this cannot be seen from one token; `diagnostics_eq_nil_iff` says it of all tokens at once,
by counting the names. So the terms of a record that is reordered are the same in another order, and
it is well formed if it was before (`read_of_reordered`).
-/

namespace SenderPolicy

namespace Reading

/-- The names under which the terms of tokens are counted as modifiers. -/
def countedNames (tokens : List Text) : List Text :=
  tokens.filterMap fun token => (Term.read token).toOption.bind Term.countedName?

/-- A term is no repetition unless it is the second of a name that may stand once. -/
theorem repetition_eq_nil_iff {seen : List Text} {t : Term} : repetition seen t = [] ↔
    ∀ name, t.countedName? = some name → name ∈ uniqueModifiers → seen.count name ≠ 1 := by
  unfold repetition
  cases t.countedName? with
  | none => simp
  | some name => simp

/-- A token that is a term adds the name under which the term is counted. -/
theorem countedNames_cons {token : Text} {tokens : List Text} {t : Term}
    (ht : Term.read token = .ok t) :
    countedNames (token :: tokens) = t.countedName?.toList ++ countedNames tokens := by
  have hname : (Term.read token).toOption.bind Term.countedName? = t.countedName? := by
    rw [ht]
    rfl
  rw [countedNames, List.filterMap_cons, hname]
  cases t.countedName? <;> rfl

/-- There is no diagnostic of tokens if all of them are terms and no name that may stand once comes
to stand twice. -/
theorem diagnostics_eq_nil_iff {seen tokens : List Text} {r : Reading}
    (h : ofTokens seen tokens = .ok r) : r.diagnostics = [] ↔
      (∀ token ∈ tokens, ∃ t, Term.read token = .ok t) ∧
        ∀ name ∈ uniqueModifiers, seen.count name ≤ 1 →
          seen.count name + (countedNames tokens).count name ≤ 1 := by
  induction tokens generalizing seen r with
  | nil =>
    cases h
    simp [countedNames]
  | cons token tokens ih =>
    obtain ⟨t, rest, ht, hr, rfl⟩ | ⟨m, rest, hm, hr, rfl⟩ := ofTokens_cons_eq_ok_iff.1 h
    · -- For one name: the term is no repetition of it, and the rest does not repeat what is then
      -- seen.
      have hname : ∀ name, ((t.countedName? = some name → seen.count name ≠ 1) ∧
          ((t.countedName?.toList ++ seen).count name ≤ 1 →
            (t.countedName?.toList ++ seen).count name + (countedNames tokens).count name ≤ 1)) ↔
          (seen.count name ≤ 1 →
            seen.count name + (countedNames (token :: tokens)).count name ≤ 1) := by
        intro name
        have hone : t.countedName?.toList.count name =
            if t.countedName? = some name then 1 else 0 := by
          cases t.countedName? with
          | none => rfl
          | some n => simp [List.count_singleton]
        rw [countedNames_cons ht, List.count_append, List.count_append, hone]
        by_cases heq : t.countedName? = some name
        · rw [if_pos heq]
          simp only [heq, true_implies]
          omega
        · rw [if_neg heq]
          simp only [heq, false_implies, true_and]
          omega
      rw [List.append_eq_nil_iff, repetition_eq_nil_iff, ih hr, List.forall_mem_cons]
      constructor
      · rintro ⟨hfirst, hall, hrest⟩
        exact ⟨⟨⟨t, ht⟩, hall⟩, fun name hu =>
          (hname name).1 ⟨fun heq => hfirst name heq hu, hrest name hu⟩⟩
      · rintro ⟨⟨-, hall⟩, hcount⟩
        exact ⟨fun name heq hu => ((hname name).2 (hcount name hu)).1 heq, hall,
          fun name hu => ((hname name).2 (hcount name hu)).2⟩
    · -- A malformed token leaves its diagnostic.
      simp [hm]

/-- Tokens in another order have a diagnostic if they had one before. -/
theorem diagnostics_eq_nil_of_perm {tokens tokens' : List Text} {r r' : Reading}
    (h : ofTokens [] tokens = .ok r) (h' : ofTokens [] tokens' = .ok r')
    (hp : tokens.Perm tokens') : r.diagnostics = [] ↔ r'.diagnostics = [] := by
  have hnames : (countedNames tokens).Perm (countedNames tokens') := hp.filterMap _
  rw [diagnostics_eq_nil_iff h, diagnostics_eq_nil_iff h']
  simp only [hp.mem_iff, hnames.count_eq]

end Reading

namespace Record

/-- A text that is the same, or an SPF record with the same tokens in another order. -/
def Reordered (raw raw' : Text) : Prop :=
  raw = raw' ∨ isSpfRecord raw = true ∧ isSpfRecord raw' = true ∧ (tokens raw).Perm (tokens raw')

variable {raw raw' domain : Text} {r : Record}

/-- Reordering can be undone. -/
theorem Reordered.symm (h : Reordered raw raw') : Reordered raw' raw := by
  rcases h with rfl | ⟨hraw, hraw', hp⟩
  · exact .inl rfl
  · exact .inr ⟨hraw', hraw, hp.symm⟩

/-- A record that is reordered is a record. -/
theorem Reordered.isSpfRecord_eq (h : Reordered raw raw') : isSpfRecord raw = isSpfRecord raw' := by
  rcases h with rfl | ⟨hraw, hraw', -⟩
  · rfl
  · rw [hraw, hraw']

/-- A record whose diagnostic is the first of a list is well formed if the list is empty. -/
theorem isWellFormed_iff_diagnostics {terms : List Term} {diagnostics : List Diagnostic} :
    (Record.mk raw domain terms diagnostics.head?).isWellFormed = true ↔ diagnostics = [] := by
  cases diagnostics <;> simp [isWellFormed]

/-- A text can be read in another order if it can be read, with the same terms in another order. It
is well formed if it was before. -/
theorem read_of_reordered (h : Reordered raw raw') (hr : read raw domain = .ok r) :
    ∃ r', read raw' domain = .ok r' ∧ r.terms.Perm r'.terms ∧ r.isWellFormed = r'.isWellFormed := by
  rcases h with rfl | ⟨hraw, hraw', hp⟩
  · exact ⟨r, hr, .refl _, rfl⟩
  -- The tokens are the same, so none of them is oversized.
  have hreadable : Readable raw' := fun _ token ht =>
    (exists_read_iff domain).1 ⟨r, hr⟩ hraw token (hp.mem_iff.2 ht)
  obtain ⟨r', hr'⟩ := (exists_read_iff domain).2 hreadable
  refine ⟨r', hr', ?_, ?_⟩
  · rw [terms_of_read hraw hr, terms_of_read hraw' hr']
    exact (hp.filterMap _).cons _
  · obtain ⟨rd, hrd, rfl⟩ := (read_eq_ok_iff hraw).1 hr
    obtain ⟨rd', hrd', rfl⟩ := (read_eq_ok_iff hraw').1 hr'
    rw [Bool.eq_iff_iff, isWellFormed_iff_diagnostics, isWellFormed_iff_diagnostics]
    exact Reading.diagnostics_eq_nil_of_perm hrd hrd' hp

end Record

end SenderPolicy
