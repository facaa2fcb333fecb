import SenderPolicy.Proofs.Chain.Cost
import SenderPolicy.Proofs.Issue.Raised
import SenderPolicy.Report

/-!
# The lookups in a report

A report tells the lookups that a walk was charged, and two of its issues compare them with the
limit. `lookups_eq_min_cost` says what they tell of the record itself, if no time elapses: the
number is the cost of the record up to one lookup more than allowed, and the issues compare the cost
with the limit, however far the walk came.
-/

namespace SenderPolicy

/-- No other kind of issue has the title of more lookups than allowed. -/
theorem IssueKind.title_eq_tooManyLookups {k : IssueKind} :
    k.title = "Too Many DNS Lookups" ↔ k = .tooManyLookups := by
  cases k <;> decide

/-- No other kind of issue has the title of nearly as many lookups as allowed. -/
theorem IssueKind.title_eq_approachingLookupLimit {k : IssueKind} :
    k.title = "Approaching DNS Lookup Limit" ↔ k = .approachingLookupLimit := by
  cases k <;> decide

section Timing

variable {τ : Type} [Seconds τ]

/-- The expansion of a record, if no time elapses, is charged the cost of the record or one lookup
more than allowed, and says which. -/
theorem Chain.lookups_of_evaluate {z : FiniteZone τ} {limit : Nat} {seconds deadline now : τ}
    {domain raw : Text} {records : List Text} {c : Chain} (ht : z.Timeless deadline now)
    (h : (evaluate z.toZone ⟨(limit : Int), seconds⟩ deadline now domain records raw).outcome =
      .ok c) :
    ∃ root, Record.read raw domain = .ok root ∧ c.root = some root ∧
      c.lookups = min (z.cost [domain] root.terms : Int) (limit + 1) ∧
      (c.limitExceeded = true ↔ limit < z.cost [domain] root.terms) := by
  obtain ⟨root, hread, habort, rfl⟩ := evaluate_outcome_iff.1 h
  have hcharged := charged_walk_eq_min habort (ht.isOutOfTime_walk _ _)
  have hover := @isOverBudget_iff_lt_charged τ _ z.toZone deadline now limit [⟨domain, root.terms⟩]
  have hcost : z.openCost [⟨domain, root.terms⟩] = z.cost [domain] root.terms := rfl
  simp only [LookupLimit.most, Int.toNat_natCast] at hcharged
  rw [hcost] at hcharged
  rw [hcharged] at hover
  refine ⟨root, hread, rfl, ?_, ?_⟩
  · simp only [Walk.chain, LookupLimit.most, Int.toNat_natCast, hcharged]
    omega
  · simp only [Walk.chain, LookupLimit.most, Int.toNat_natCast, hover]
    omega

/-- If no time elapses, the lookups that are reported for a record of a finite zone are its cost or
one lookup more than allowed, whichever is less. It is reported that the limit was exceeded if and
only if the cost is beyond it, and that it is near if and only if the cost is it or one less. -/
theorem lookups_eq_min_cost (z : FiniteZone τ) (limit : Nat) (seconds now : τ) (moment : Instant)
    (domain raw : Text) (r : Report) (ht : z.Timeless (now + seconds) now)
    (hp : z.published? (normalizeDomain domain) = some raw)
    (h : (Validator.validate (.ofLimits ⟨(limit : Int), seconds⟩) z.toZone now moment
      domain).outcome = .ok r) :
    ∃ root c n, Record.read raw (normalizeDomain domain) = .ok root ∧
      (Chain.resolve z.toZone ⟨(limit : Int), seconds⟩ now domain).outcome = .ok c ∧
      n = z.cost [normalizeDomain domain] root.terms ∧
      r.lookups = min (n : Int) (limit + 1) ∧ c.lookups = min (n : Int) (limit + 1) ∧
      (c.limitExceeded = true ↔ limit < n) ∧
      ((∃ i ∈ r.issues, i.kind.title = "Too Many DNS Lookups") ↔ limit < n) ∧
      ((∃ i ∈ r.issues, i.kind.title = "Approaching DNS Lookup Limit") ↔
        (limit : Int) - 1 ≤ n ∧ n ≤ limit) := by
  obtain ⟨c, hc, rfl⟩ := Traced.report_outcome_iff.1 h
  obtain ⟨hnone, -⟩ | ⟨texts, raw', others, ha, hs, he⟩ := Chain.resolve_outcome_cases hc
  · rw [hp] at hnone
    cases hnone
  -- The first record of the answer is the one that is published.
  obtain rfl : raw' = raw := by simpa [Zone.published?, ha, hs] using hp
  simp only [Validator.ofLimits, ht.add_delay] at he
  obtain ⟨root, hread, hroot, hlookups, hexceeded⟩ := Chain.lookups_of_evaluate ht he
  -- The issues are those of the record, and each of the two is there for its own reason.
  have hraised : ∀ k, (∃ i ∈ (c.report (c.issues (limit : Int)) moment).issues, i.kind = k) ↔
      c.Raises (limit : Int) root k := by
    intro k
    have hissues : (c.report (c.issues (limit : Int)) moment).issues =
        c.recordIssues (limit : Int) root := by simp [Chain.report, Chain.issues, hroot]
    rw [hissues]
    exact Chain.exists_issue_iff
  refine ⟨root, c, _, hread, hc, rfl, hlookups, hlookups, hexceeded, ?_, ?_⟩
  · simp only [IssueKind.title_eq_tooManyLookups]
    refine (hraised .tooManyLookups).trans ?_
    simp only [Chain.Raises, Chain.exceeds, LookupLimit.isExceededBy, Bool.or_eq_true,
      decide_eq_true_eq, hexceeded, hlookups]
    omega
  · simp only [IssueKind.title_eq_approachingLookupLimit]
    refine (hraised .approachingLookupLimit).trans ?_
    simp only [Chain.Raises, LookupLimit.isNear, Bool.and_eq_true, decide_eq_true_eq,
      ← Bool.not_eq_true, hexceeded, hlookups]
    omega

end Timing

/-- A zone in which a record costs four lookups: one for the reference to a record of two. -/
def referringTable : ZoneTable where
  answers :=
    [("a", .texts ["v=spf1 include:b a -all"]), ("b", .texts ["v=spf1 mx ptr ip4:10.0.0.0/8"])]

/-- On a machine clock at zero, no time elapses in a zone whose answers take none. -/
theorem timeless_referringTable :
    referringTable.zone.Timeless (0 + Seconds.ofInt 5) (0 : Binary64) where
  add_delay _ := by
    show (0 : Binary64) + 0 = 0
    decide +kernel
  remaining := by decide +kernel

/-- With a limit of two, three lookups of the four are charged, and the limit is exceeded. -/
theorem referringTable_lookups :
    ∃ r, (Validator.validate (.ofLimits ⟨(2 : Int), Seconds.ofInt 5⟩) referringTable.zone
        (0 : Binary64) ⟨2024, 1, 1, 0, 0, 0, 0⟩ ("a" : Text)).outcome = .ok r ∧ r.lookups = 3 ∧
      ∃ i ∈ r.issues, i.kind.title = "Too Many DNS Lookups" := by
  obtain ⟨r, hr, hl⟩ : ∃ r, (Validator.validate (.ofLimits ⟨(2 : Int), Seconds.ofInt 5⟩)
      referringTable.zone (0 : Binary64) ⟨2024, 1, 1, 0, 0, 0, 0⟩ ("a" : Text)).outcome = .ok r ∧
        r.lookups = 3 :=
    exists_ok_of_map_toOption Report.lookups (by decide +kernel)
  obtain ⟨root, c, n, -, -, -, hmin, -, -, htoo, -⟩ :=
    lookups_eq_min_cost referringTable.finiteZone 2 (Seconds.ofInt 5) 0 _ ("a" : Text)
      ("v=spf1 include:b a -all" : Text) r timeless_referringTable (by decide +kernel) hr
  -- Three lookups are as many as a limit of two lets through, so the cost is beyond it.
  exact ⟨r, hr, hl, htoo.2 (by omega)⟩

end SenderPolicy
