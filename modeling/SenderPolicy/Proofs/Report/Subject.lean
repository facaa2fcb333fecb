import Mathlib.Data.List.Basic
import SenderPolicy.Assessor
import SenderPolicy.Proofs.Chain.Expansion
import SenderPolicy.Proofs.DomainName
import SenderPolicy.Proofs.Term.ModifierName

/-!
# The subject of a report

A name is accepted in its normal form, and the normal form of that is what is looked up and reported
on. The two are the same for a name as it is written: it has no blanks, its letters are small, and
it does not end in a dot (`normalizeDomain_of_isNameOf`). They differ where a line feed is left at
the end of the normal form, which is passed over when the name is accepted and dropped when the name
is put into normal form once more. That is so if and only if the name was given with a line feed and
a dot at its end (`getLast?_normalizeDomain_iff`).
-/

namespace SenderPolicy

/-! ## Characters that are kept -/

/-- A character that is kept in a normal form, wherever it stands. -/
def IsKept (c : CodePoint) : Prop :=
  isBlank c = false ∧ lowerChar c = c ∧ c ≠ '\u0130' ∧ c ≠ 'Σ'

/-- Small letters and digits are characters of ASCII. -/
theorem toNat_lt_of_isSmallAlnum {c : CodePoint} (h : isSmallAlnum c = true) : c.toNat < 0x80 := by
  have hlast : ('z' : CodePoint).toNat = 0x7A ∧ ('9' : CodePoint).toNat = 0x39 := by decide
  simp only [isSmallAlnum, CodePoint.isBetween, Bool.or_eq_true, Bool.and_eq_true,
    decide_eq_true_eq] at h
  omega

/-- The characters of names are kept. -/
theorem isKept_of_isSmallLatinAlnum {c : CodePoint}
    (h : isSmallLatinAlnum c = true ∨ c = '-' ∨ c = '.') : IsKept c := by
  have hascii : ∀ n : Fin 0x80, isSmallAlnum (CodePoint.ofNat n) = true →
      IsKept (CodePoint.ofNat n) := by
    unfold IsKept
    decide +kernel
  have hother : ∀ d ∈ (['\u0131', '\u017f', '-', '.'] : List CodePoint), IsKept d := by
    unfold IsKept
    decide +kernel
  simp only [isSmallLatinAlnum, Bool.or_eq_true, decide_eq_true_eq] at h
  obtain ((hsmall | rfl) | rfl) | rfl | rfl := h
  · have hkept := hascii ⟨c.toNat, toNat_lt_of_isSmallAlnum hsmall⟩
    rw [CodePoint.ofNat_toNat] at hkept
    exact hkept hsmall
  all_goals exact hother _ (by simp)

/-- A text in which all characters are kept is its own lower case. -/
theorem lowerAfter_eq_self {before s : Text} (h : ∀ c ∈ s, IsKept c) : lowerAfter before s = s := by
  induction s generalizing before with
  | nil => rfl
  | cons c rest ih =>
    obtain ⟨-, hlower, hI, hsigma⟩ := h c List.mem_cons_self
    have hrest : lowerAfter (c :: before) rest = rest :=
      ih fun d hd => h d (List.mem_cons_of_mem _ hd)
    simp [lowerAfter, hI, hsigma, hlower, hrest]

namespace Text

variable {p : CodePoint → Bool} {c : CodePoint} {s : Text}

/-- Nothing is dropped from the front of a text without characters of the class. -/
theorem dropWhile_eq_self (h : ∀ c ∈ s, p c = false) : s.dropWhile p = s := by
  cases s with
  | nil => rfl
  | cons c rest =>
    rw [List.dropWhile_cons_of_neg]
    simp [h c List.mem_cons_self]

/-- Nothing is dropped from the end of a text without characters of the class. -/
theorem dropEndWhile_eq_self (h : ∀ c ∈ s, p c = false) : dropEndWhile p s = s := by
  rw [dropEndWhile, dropWhile_eq_self fun c hc => h c (List.mem_reverse.1 hc), List.reverse_reverse]

/-- Nothing is dropped from either end of a text without characters of the class. -/
theorem trimWhile_eq_self (h : ∀ c ∈ s, p c = false) : trimWhile p s = s := by
  rw [trimWhile, dropWhile_eq_self h, dropEndWhile_eq_self h]

/-- A character of the class is dropped from the end of a text that has no other. -/
theorem trimWhile_concat (h : ∀ c ∈ s, p c = false) (hc : p c = true) :
    trimWhile p (s ++ [c]) = s := by
  cases s with
  | nil => simp [trimWhile, dropEndWhile, hc]
  | cons d rest =>
    -- The first character is not of the class, so the one at the end is dropped from the end.
    have hd : ¬ p d = true := by simp [h d List.mem_cons_self]
    have hend : dropEndWhile p (d :: rest ++ [c]) = dropEndWhile p (d :: rest) := by
      rw [dropEndWhile, List.reverse_append, List.reverse_singleton, List.singleton_append,
        List.dropWhile_cons_of_pos hc]
      rfl
    rw [trimWhile, List.cons_append, List.dropWhile_cons_of_neg hd, ← List.cons_append, hend,
      dropEndWhile_eq_self h]

/-- A trimmed text does not end in a character of the class. -/
theorem getLast?_trimWhile (hc : p c = true) : (trimWhile p s).getLast? ≠ some c := by
  intro hlast
  rw [trimWhile, dropEndWhile, List.getLast?_reverse] at hlast
  have hnot := List.head?_dropWhile_not p (s.dropWhile p).reverse
  rw [hlast] at hnot
  simp [hc] at hnot

/-- A character is not dropped from the end of a text if and only if it does not stand there. -/
theorem dropFinal_eq_self_iff : dropFinal c s = s ↔ s.getLast? ≠ some c := by
  rw [dropFinal_eq_iff]
  simp

end Text

/-! ## Names are their own normal forms -/

/-- A text that ends in a label ends as the label does. -/
theorem getLast?_joined {labels : List Text} {last : Text} (hlast : last ≠ []) :
    (Text.joined "." (labels ++ [last])).getLast? = last.getLast? := by
  induction labels with
  | nil => simp [Text.joined]
  | cons label labels ih =>
    have hne : labels ++ [last] ≠ [] := by simp
    obtain ⟨next, rest, hrest⟩ := List.exists_cons_of_ne_nil hne
    have hends : Text.joined "." (labels ++ [last]) ≠ [] := by
      rw [ne_eq, ← List.getLast?_eq_none_iff, ih, List.getLast?_eq_none_iff]
      exact hlast
    rw [List.cons_append, hrest, Text.joined_cons_cons, ← hrest,
      List.getLast?_append_of_ne_nil _ hends, ih]

/-- A name does not end in a dot. -/
theorem IsNameOf.getLast?_ne_dot {s : Text} (h : IsNameOf isSmallLatinAlnum s) :
    s.getLast? ≠ some (.char '.') := by
  obtain ⟨labels, last, -, rfl, hlabels, -⟩ := h
  have hlabel := hlabels last (by simp)
  rw [getLast?_joined hlabel.ne_nil]
  intro hdot
  have hsign : isSmallLatinAlnum '.' = false ∧ ('.' : CodePoint) ≠ '-' := by decide
  rcases hlabel.mem _ (List.mem_of_getLast? hdot) with hletter | hhyphen
  · rw [hsign.1] at hletter
    cases hletter
  · exact hsign.2 hhyphen

/-- A name as it is written is its own normal form, and that of the name with a line feed at its
end. -/
theorem normalizeDomain_of_isNameOf {s : Text} (h : IsNameOf isSmallLatinAlnum s) :
    normalizeDomain s = s ∧ normalizeDomain (s ++ [.char '\n']) = s := by
  have hkept : ∀ c ∈ s, IsKept c := fun c hc => isKept_of_isSmallLatinAlnum (h.mem c hc)
  have hblank : ∀ c ∈ s, isBlank c = false := fun c hc => (hkept c hc).1
  have hdrop : Text.dropFinal '.' s = s := Text.dropFinal_eq_iff.2 (.inr ⟨rfl, h.getLast?_ne_dot⟩)
  have hlower : Text.lower s = s := lowerAfter_eq_self hkept
  have hfeed : isBlank (.char '\n') = true := by decide
  constructor
  · rw [normalizeDomain, Text.trim, Text.trimWhile_eq_self hblank, hdrop, hlower]
  · rw [normalizeDomain, Text.trim, Text.trimWhile_concat hblank hfeed, hdrop, hlower]

/-! ## Line feeds -/

/-- A line feed is the small letter of a line feed, and of nothing else. -/
theorem lowerChar_eq_feed_iff {c : CodePoint} : lowerChar c = '\n' ↔ c = '\n' := by
  have hascii : ∀ n : Fin 0x80, lowerChar (CodePoint.ofNat n) = '\n' →
      CodePoint.ofNat n = '\n' := by
    decide +kernel
  constructor
  · intro h
    have hplain : IsPlain (lowerChar c) := by
      rw [h]
      unfold IsPlain
      decide
    have hc := hascii ⟨c.toNat, toNat_lt_of_isPlain_lowerChar hplain⟩
    rw [CodePoint.ofNat_toNat] at hc
    exact hc h
  · rintro rfl
    decide

/-- The lower case of a text ends in a line feed if and only if the text does. -/
theorem getLast?_lowerAfter_iff {before s : Text} :
    (lowerAfter before s).getLast? = some (.char '\n') ↔ s.getLast? = some (.char '\n') := by
  induction s generalizing before with
  | nil => rfl
  | cons c rest ih =>
    cases rest with
    | nil =>
      -- Neither the capital I with a dot nor the capital sigma leaves a line feed.
      rw [lowerAfter, lowerAfter, List.append_nil, List.getLast?_singleton, Option.some.injEq]
      split
      · rename_i hc
        subst hc
        decide
      · split
        · rename_i hsigma
          rw [Bool.and_eq_true, Bool.and_eq_true, decide_eq_true_eq] at hsigma
          rw [hsigma.1.1]
          decide
        · rw [List.getLast?_singleton, Option.some.injEq, lowerChar_eq_feed_iff]
    | cons d rest =>
      obtain ⟨e, lowered, hlower, -⟩ := exists_lowerAfter_cons (c :: before) rest d
      have hne : lowerAfter (c :: before) (d :: rest) ≠ [] := by
        rw [hlower]
        exact List.cons_ne_nil e lowered
      rw [lowerAfter, List.getLast?_append_of_ne_nil _ hne, ih, List.getLast?_cons_cons]

/-- A normal form ends in a line feed if and only if the text ends in a line feed and a dot, once it
is trimmed. -/
theorem getLast?_normalizeDomain_iff {d : Text} :
    (normalizeDomain d).getLast? = some (.char '\n') ↔ ("\n." : Text) <:+ Text.trim d := by
  have htrim : (Text.trim d).getLast? ≠ some (.char '\n') := Text.getLast?_trimWhile (by decide)
  have hend : ("\n." : Text) = [.char '\n'] ++ [.char '.'] := rfl
  rw [normalizeDomain, Text.lower, getLast?_lowerAfter_iff, List.getLast?_eq_some_iff]
  constructor
  · rintro ⟨front, hfront⟩
    -- The trimmed text does not end in the line feed, so a dot was dropped from behind it.
    obtain htext | ⟨htext, -⟩ := Text.dropFinal_eq_iff.1 hfront
    · refine ⟨front, ?_⟩
      rw [htext, hend, List.append_assoc]
    · rw [htext, List.getLast?_concat] at htrim
      exact absurd rfl htrim
  · rintro ⟨front, hfront⟩
    refine ⟨front, Text.dropFinal_eq_iff.2 (.inl ?_)⟩
    rw [← hfront, hend, List.append_assoc]

/-- What the second normal form of an accepted name leaves out of the first is a line feed. -/
theorem normalizeDomain_of_isHostname {d : Text} (h : isHostname d = true) :
    normalizeDomain (normalizeDomain d) = Text.dropFinal '\n' (normalizeDomain d) := by
  obtain ⟨-, hwritten⟩ := isHostname_iff_written.1 h
  obtain ⟨hsame, hfeed⟩ := normalizeDomain_of_isNameOf hwritten
  -- The first normal form is a name with a line feed behind it, or a name.
  obtain hline | ⟨hplain, -⟩ := Text.dropFinal_eq_iff.1
    (rfl : Text.dropFinal '\n' (normalizeDomain d) = _)
  · rwa [← hline] at hfeed
  · rwa [← hplain] at hsame ⊢

/-! ## What is looked up and reported on -/

section Timing

variable {τ : Type} [Seconds τ] {z : Zone τ} {now : τ} {domain : Text}

/-- A chain that is returned for a domain is a chain of its normal form. -/
theorem Chain.domain_of_resolve {l : Limits τ} {c : Chain}
    (h : (resolve z l now domain).outcome = .ok c) : c.domain = normalizeDomain domain := by
  obtain ⟨-, hc⟩ | ⟨_, raw, _, -, -, he⟩ := resolve_outcome_cases h
  · rw [hc]
    rfl
  · obtain ⟨root, hread, -, rfl⟩ := evaluate_outcome_iff.1 he
    exact Record.domain_of_read hread

/-- A report on a domain is one on its normal form, which is looked up first. -/
theorem Validator.subject_of_validate {v : Validator τ} {moment : Instant} {report : Report}
    (h : (v.validate z now moment domain).outcome = .ok report) :
    report.domain = normalizeDomain domain ∧
      ∃ q later, (v.validate z now moment domain).queries = q :: later ∧
        q.domain = normalizeDomain domain := by
  obtain ⟨c, hc, rfl⟩ := Traced.report_outcome_iff.1 h
  refine ⟨Chain.domain_of_resolve hc, _, _, Traced.queries_report _ _ _, rfl⟩

end Timing

/-- What is reported on is what is looked up first, in whatever zone and under whatever settings a
report is made on a name that was accepted. It is the name without a line feed at its end, so it is
the name itself, unless the text that was accepted ends in a line feed and a dot once it is
trimmed. -/
theorem accepted_name_is_subject {τ : Type} [Seconds τ] (a : Assessor τ) (z : Zone τ) (now : τ)
    (moment : Instant) (d name : Text) (report : Report) (hname : hostname? d = some name)
    (hreport : (a.assess z now moment name).outcome = .ok report) :
    (∃ q later, (a.assess z now moment name).queries = q :: later ∧ q.domain = report.domain) ∧
      report.domain = Text.dropFinal '\n' name ∧
      (report.domain = name ↔ ¬ ("\n." : Text) <:+ Text.trim d) := by
  obtain ⟨haccepted, rfl⟩ : isHostname d = true ∧ normalizeDomain d = name := by
    simpa [hostname?] using hname
  obtain ⟨v, hv⟩ := Assessor.exists_validate_of_assess hreport
  rw [hv] at hreport ⊢
  obtain ⟨hdomain, q, later, hqueries, hq⟩ := Validator.subject_of_validate hreport
  rw [normalizeDomain_of_isHostname haccepted] at hdomain
  refine ⟨⟨q, later, hqueries, ?_⟩, hdomain, ?_⟩
  · rw [hq, hdomain, normalizeDomain_of_isHostname haccepted]
  · rw [hdomain, Text.dropFinal_eq_self_iff, ne_eq, getLast?_normalizeDomain_iff]

/-- A zone in which every domain publishes the same record. -/
def uniformZone : Zone Rat where
  answer _ := .texts ["v=spf1 -all"]
  delay _ := 0

/-- Of a name with blanks around it, a dot at its end and capital letters, the normal form is looked
up and reported on. -/
theorem exampleCom_is_subject :
    hostname? " Example.COM. " = some ("example.com" : Text) ∧
      ∃ report q later, ((Assessor.ofLimits ⟨(10 : Int), 5⟩).assess uniformZone 0
          ⟨2024, 1, 1, 0, 0, 0, 0⟩ ("example.com" : Text)).outcome = .ok report ∧
        ((Assessor.ofLimits ⟨(10 : Int), 5⟩).assess uniformZone 0
          ⟨2024, 1, 1, 0, 0, 0, 0⟩ ("example.com" : Text)).queries = q :: later ∧
        q.domain = ("example.com" : Text) ∧ report.domain = ("example.com" : Text) := by
  have hname : hostname? " Example.COM. " = some ("example.com" : Text) := by decide +kernel
  obtain ⟨report, hreport, -⟩ : ∃ report, ((Assessor.ofLimits ⟨(10 : Int), 5⟩).assess uniformZone 0
      ⟨2024, 1, 1, 0, 0, 0, 0⟩ ("example.com" : Text)).outcome = .ok report ∧
        report.isValid = true :=
    exists_ok_of_map_toOption Report.isValid (by decide +kernel)
  obtain ⟨⟨q, later, hqueries, hq⟩, -, hsame⟩ :=
    accepted_name_is_subject (.ofLimits ⟨(10 : Int), 5⟩) uniformZone 0 _ " Example.COM. " _ report
      hname hreport
  have hdomain : report.domain = ("example.com" : Text) := hsame.2 (by decide +kernel)
  exact ⟨hname, report, q, later, hreport, hqueries, hq.trans hdomain, hdomain⟩

/-- A name is accepted with a line feed at its end, but looked up and reported on without it. -/
theorem feedName_is_not_subject :
    hostname? "a.com\n." = some ("a.com\n" : Text) ∧
      ∃ report, ((Assessor.ofLimits ⟨(10 : Int), 5⟩).assess uniformZone 0
          ⟨2024, 1, 1, 0, 0, 0, 0⟩ ("a.com\n" : Text)).outcome = .ok report ∧
        report.domain = ("a.com" : Text) ∧ report.domain ≠ ("a.com\n" : Text) ∧
        ((Assessor.ofLimits ⟨(10 : Int), 5⟩).assess uniformZone 0
          ⟨2024, 1, 1, 0, 0, 0, 0⟩ ("a.com\n" : Text)).queries.map Query.domain =
            [("a.com" : Text)] := by
  obtain ⟨report, hreport, hdomain⟩ : ∃ report, ((Assessor.ofLimits ⟨(10 : Int), 5⟩).assess
      uniformZone 0 ⟨2024, 1, 1, 0, 0, 0, 0⟩ ("a.com\n" : Text)).outcome = .ok report ∧
        report.domain = ("a.com" : Text) :=
    exists_ok_of_map_toOption Report.domain (by decide +kernel)
  refine ⟨by decide +kernel, report, hreport, hdomain, ?_, by decide +kernel⟩
  rw [hdomain]
  decide

end SenderPolicy
