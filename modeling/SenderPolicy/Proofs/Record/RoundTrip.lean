import Mathlib.Data.List.Basic
import SenderPolicy.Proofs.Record.Reordering
import SenderPolicy.Proofs.Record.Tokens
import SenderPolicy.Proofs.Term.ModifierName

/-!
# Reading what a record is written as

The canonical text of a record is made of the canonical texts of its terms. These are words again
(`Term.isWord_render`), so they are the tokens of the text (`tokens_render`), and each of them is
read as the term that it was written for (`terms_of_read_render`). What was malformed in the first
text is not there any more, so the only thing that can be wrong with the second is a modifier that
stands twice: `isWellFormed_iff_counts` says of any record when it is well formed, by counting its
terms.
-/

namespace SenderPolicy

/-- What is written for a word that was read as a term is a word. -/
theorem Term.isWord_render {token : Text} {t : Term} (hw : Text.IsWord token)
    (h : read token = .ok t) : Text.IsWord t.render := by
  constructor
  · intro hempty
    have hread := read_render h
    rw [hempty] at hread
    cases hread
  · intro c hc
    obtain hmem | hblank := mem_or_not_isBlank_of_mem_render h hc
    · exact hw.2 c hmem
    · exact hblank

/-! ## Counted terms -/

/-- Whether a term is a redirect. -/
def Term.isRedirect : Term → Bool
  | .redirect _ => true
  | _ => false

/-- Whether a term is the modifier that names an explanation. -/
def Term.isExplanation (t : Term) : Bool := t.modifierName? = some ("exp" : Text)

/-- Of the terms that were read, the redirects are counted as such. -/
theorem Term.countedName?_eq_redirect_iff {token : Text} {t : Term} (h : read token = .ok t) :
    t.countedName? = some Keyword.redirect.text ↔ t.isRedirect = true := by
  have hname := modifierName?_ne_redirect h
  cases t with
  | redirect v => simp [countedName?, isRedirect]
  | _ => simpa [countedName?, isRedirect] using hname

/-- The explanations are counted under their name. -/
theorem Term.countedName?_eq_exp_iff (t : Term) :
    t.countedName? = some ("exp" : Text) ↔ t.isExplanation = true := by
  unfold isExplanation
  rw [decide_eq_true_iff]
  cases t with
  | redirect v =>
    have hne : Keyword.redirect.text ≠ ("exp" : Text) := by decide
    simp [countedName?, modifierName?, hne]
  | _ => rfl

namespace Record

/-- The canonical text of a record: its terms as they are written, with a space between each two. -/
def render (r : Record) : Text := Text.joined " " (r.terms.map Term.render)

variable {raw domain : Text} {r : Record}

/-! ## What is wrong with a record -/

/-- The terms of a record after the version tag were read from words. -/
theorem exists_terms_eq (hraw : isSpfRecord raw = true) (h : read raw domain = .ok r) :
    ∃ ts : List Term, r.terms = .version :: ts ∧
      ∀ t ∈ ts, ∃ token, Text.IsWord token ∧ Term.read token = .ok t := by
  refine ⟨_, terms_of_read hraw h, fun t ht => ?_⟩
  obtain ⟨token, htoken, hread⟩ := List.mem_filterMap.1 ht
  have hid : (Term.read token).toOption.map id = some t := by rw [Option.map_id_apply, hread]
  obtain ⟨t', hok, rfl⟩ := exists_ok_of_map_toOption id hid
  exact ⟨token, Text.isWord_of_mem_words htoken, hok⟩

/-- A record is well formed if every token is a term and no modifier that may stand once stands
twice. -/
theorem isWellFormed_iff_countedNames (hraw : isSpfRecord raw = true)
    (h : read raw domain = .ok r) : r.isWellFormed = true ↔
      (∀ token ∈ tokens raw, ∃ t, Term.read token = .ok t) ∧
        ∀ name ∈ uniqueModifiers, (r.terms.filterMap Term.countedName?).count name ≤ 1 := by
  have hnames : r.terms.filterMap Term.countedName? = Reading.countedNames (tokens raw) := by
    rw [terms_of_read hraw h, List.filterMap_cons_none rfl, List.filterMap_filterMap]
    rfl
  obtain ⟨rd, hrd, rfl⟩ := (read_eq_ok_iff hraw).1 h
  rw [isWellFormed_iff_diagnostics, Reading.diagnostics_eq_nil_iff hrd, hnames]
  simp

/-- A name is counted once for every term under that name. -/
theorem count_countedNames (terms : List Term) (name : Text) :
    (terms.filterMap Term.countedName?).count name =
      terms.countP fun t => t.countedName? = some name := by
  rw [List.count, List.countP_filterMap]
  refine List.countP_congr fun t _ => ?_
  cases t.countedName? <;> simp

/-- Of terms that were read, the name of a redirect is counted once for every redirect. -/
theorem count_redirect_countedNames {terms : List Term}
    (h : ∀ t ∈ terms, ∃ token, Term.read token = .ok t) :
    (terms.filterMap Term.countedName?).count Keyword.redirect.text =
      terms.countP Term.isRedirect := by
  rw [count_countedNames]
  refine List.countP_congr fun t ht => ?_
  obtain ⟨token, hread⟩ := h t ht
  rw [decide_eq_true_iff]
  exact Term.countedName?_eq_redirect_iff hread

/-- The name of an explanation is counted once for every explanation. -/
theorem count_exp_countedNames (terms : List Term) :
    (terms.filterMap Term.countedName?).count ("exp" : Text) =
      terms.countP Term.isExplanation := by
  rw [count_countedNames]
  refine List.countP_congr fun t _ => ?_
  rw [decide_eq_true_iff]
  exact Term.countedName?_eq_exp_iff t

/-- A record is well formed if every token is a term and there is at most one redirect and at most
one explanation. -/
theorem isWellFormed_iff_counts (hraw : isSpfRecord raw = true) (h : read raw domain = .ok r) :
    r.isWellFormed = true ↔ (∀ token ∈ tokens raw, ∃ t, Term.read token = .ok t) ∧
      r.terms.countP Term.isRedirect ≤ 1 ∧ r.terms.countP Term.isExplanation ≤ 1 := by
  obtain ⟨ts, hts, htoken⟩ := exists_terms_eq hraw h
  have hread : ∀ t ∈ ts, ∃ token, Term.read token = .ok t := by
    intro t ht
    obtain ⟨token, -, hok⟩ := htoken t ht
    exact ⟨token, hok⟩
  have hnames : (∀ name ∈ uniqueModifiers, (r.terms.filterMap Term.countedName?).count name ≤ 1) ↔
      r.terms.countP Term.isRedirect ≤ 1 ∧ r.terms.countP Term.isExplanation ≤ 1 := by
    -- The version tag is no modifier.
    have hredirect : (r.terms.filterMap Term.countedName?).count Keyword.redirect.text =
        r.terms.countP Term.isRedirect := by
      rw [hts, List.filterMap_cons_none rfl, count_redirect_countedNames hread,
        List.countP_cons_of_neg (by decide)]
    rw [← hredirect, ← count_exp_countedNames r.terms]
    simp only [uniqueModifiers, List.forall_mem_cons, List.not_mem_nil, false_implies, implies_true,
      and_true]
    exact Iff.rfl
  rw [isWellFormed_iff_countedNames hraw h, hnames]

/-! ## The canonical text -/

section Rendered

variable (hraw : isSpfRecord raw = true) (h : read raw domain = .ok r)
include hraw h

/-- The canonical text of a record is a record. -/
theorem isSpfRecord_render : isSpfRecord r.render = true := by
  obtain ⟨ts, hts, -⟩ := exists_terms_eq hraw h
  rw [render, hts]
  exact isSpfRecord_written _

/-- The tokens of the canonical text are the canonical texts of the terms, in their order. -/
theorem tokens_render : tokens r.render = r.terms.tail.map Term.render := by
  obtain ⟨ts, hts, htoken⟩ := exists_terms_eq hraw h
  rw [render, hts]
  refine tokens_written fun w hw => ?_
  obtain ⟨t, ht, rfl⟩ := List.mem_map.1 hw
  obtain ⟨token, hword, hread⟩ := htoken t ht
  exact Term.isWord_render hword hread

/-- What a term after the version tag is written as is read as the term. -/
theorem read_render_of_mem {t : Term} (ht : t ∈ r.terms.tail) : Term.read t.render = .ok t := by
  obtain ⟨ts, hts, htoken⟩ := exists_terms_eq hraw h
  rw [hts] at ht
  obtain ⟨token, -, hread⟩ := htoken t ht
  exact Term.read_render hread

/-- The tokens of the canonical text are terms. -/
theorem exists_read_of_mem_tokens_render {token : Text} (ht : token ∈ tokens r.render) :
    ∃ t, Term.read token = .ok t := by
  rw [tokens_render hraw h] at ht
  obtain ⟨t, hterm, rfl⟩ := List.mem_map.1 ht
  exact ⟨t, read_render_of_mem hraw h hterm⟩

/-- The canonical text can be read for any domain. -/
theorem exists_read_render (domain' : Text) : ∃ r', read r.render domain' = .ok r' := by
  refine (exists_read_iff domain').2 fun _ token ht => ?_
  exact (read_ok_or_malformed_iff (Text.ne_nil_of_mem_words ht)).1
    (.inl (exists_read_of_mem_tokens_render hraw h ht))

/-- The canonical text is read as the terms that it was written for. -/
theorem terms_of_read_render {domain' : Text} {r' : Record}
    (h' : read r.render domain' = .ok r') : r'.terms = r.terms := by
  have hterms : (r.terms.tail.map Term.render).filterMap (fun token => (Term.read token).toOption) =
      r.terms.tail := by
    rw [List.filterMap_map]
    have hsome : ∀ t ∈ r.terms.tail,
        ((fun token => (Term.read token).toOption) ∘ Term.render) t = some t := by
      intro t ht
      rw [Function.comp_apply, read_render_of_mem hraw h ht]
      rfl
    rw [List.filterMap_congr hsome, List.filterMap_some]
  obtain ⟨ts, hts, -⟩ := exists_terms_eq hraw h
  rw [terms_of_read (isSpfRecord_render hraw h) h', tokens_render hraw h, hterms, hts]
  rfl

/-- The canonical text is well formed if there is at most one redirect and at most one explanation.
-/
theorem isWellFormed_render_iff {domain' : Text} {r' : Record}
    (h' : read r.render domain' = .ok r') : r'.isWellFormed = true ↔
      r.terms.countP Term.isRedirect ≤ 1 ∧ r.terms.countP Term.isExplanation ≤ 1 := by
  rw [isWellFormed_iff_counts (isSpfRecord_render hraw h) h', terms_of_read_render hraw h h']
  exact and_iff_right fun token ht => exists_read_of_mem_tokens_render hraw h ht

end Rendered

end Record

/-- Reading inverts rendering. The canonical text of a term is read as the term. The canonical text
of a record is a record and is read as the same terms, for any domain. It is well formed if there is
at most one redirect and at most one explanation, so it is if the record is. -/
theorem reading_inverts_rendering :
    (∀ (token : Text) (t : Term), Term.read token = .ok t → Term.read t.render = .ok t) ∧
      ∀ (raw domain : Text) (r : Record), isSpfRecord raw = true → Record.read raw domain = .ok r →
        isSpfRecord r.render = true ∧
          ∀ domain' : Text, ∃ r' : Record, Record.read r.render domain' = .ok r' ∧
            r'.terms = r.terms ∧
            (r'.isWellFormed = true ↔
              r'.terms.countP Term.isRedirect ≤ 1 ∧ r'.terms.countP Term.isExplanation ≤ 1) ∧
            (r.isWellFormed = true → r'.isWellFormed = true) := by
  refine ⟨fun token t => Term.read_render, fun raw domain r hraw h => ?_⟩
  refine ⟨Record.isSpfRecord_render hraw h, fun domain' => ?_⟩
  obtain ⟨r', h'⟩ := Record.exists_read_render hraw h domain'
  have hterms := Record.terms_of_read_render hraw h h'
  have hcounts := Record.isWellFormed_render_iff hraw h h'
  refine ⟨r', h', hterms, ?_, fun hwell => ?_⟩
  · rw [hterms]
    exact hcounts
  · exact hcounts.2 ((Record.isWellFormed_iff_counts hraw h).1 hwell).2

/-- A record in which the spelling is not the canonical one, and one token is malformed. -/
def unevenRecord : Text := "V=SPF1  +A:/24 bogus -Exists:%\x7bi\x7d.b ReDirect==c Exp=all"

/-- The canonical text of the record is well formed. -/
theorem unevenRecord_rendered :
    Term.read "+A:/24" = .ok (.mechanism .pass (.a "/24")) ∧
      Term.read (Term.mechanism .pass (.a "/24")).render = .ok (.mechanism .pass (.a "/24")) ∧
      ∃ r r' : Record, Record.read unevenRecord ("a" : Text) = .ok r ∧ r.isWellFormed = false ∧
        r.render = ("v=spf1 a/24 -exists:%\x7bi\x7d.b redirect==c Exp=all" : Text) ∧
        Record.read r.render ("b" : Text) = .ok r' ∧ r'.terms = r.terms ∧
        r'.isWellFormed = true := by
  obtain ⟨hterm, hrecord⟩ := reading_inverts_rendering
  have hread : Term.read "+A:/24" = .ok (.mechanism .pass (.a "/24")) := by decide +kernel
  obtain ⟨r, hr, hfields⟩ : ∃ r, Record.read unevenRecord ("a" : Text) = .ok r ∧
      (r.isWellFormed, r.render, r.terms.countP Term.isRedirect,
          r.terms.countP Term.isExplanation) =
        (false, ("v=spf1 a/24 -exists:%\x7bi\x7d.b redirect==c Exp=all" : Text), 1, 1) :=
    exists_ok_of_map_toOption
      (fun r : Record => (r.isWellFormed, r.render, r.terms.countP Term.isRedirect,
        r.terms.countP Term.isExplanation)) (by decide +kernel)
  obtain ⟨hill, hrender, hredirects, hexplanations⟩ : r.isWellFormed = false ∧ r.render = _ ∧
      r.terms.countP Term.isRedirect = 1 ∧ r.terms.countP Term.isExplanation = 1 := by
    simpa only [Prod.mk.injEq] using hfields
  obtain ⟨-, hsame⟩ := hrecord unevenRecord "a" r (by decide +kernel) hr
  obtain ⟨r', hr', hterms, hwell, -⟩ := hsame "b"
  refine ⟨hread, hterm _ _ hread, r, r', hr, hill, hrender, hr', hterms, hwell.2 ?_⟩
  rw [hterms, hredirects, hexplanations]
  exact ⟨Nat.le_refl 1, Nat.le_refl 1⟩

end SenderPolicy
