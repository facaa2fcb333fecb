import SenderPolicy.Proofs.Chain.Budget
import SenderPolicy.Proofs.Chain.Failures
import SenderPolicy.Proofs.Issue.Raised
import SenderPolicy.Report

/-!
# What a verdict says

The verdict of a report comes from the issues that were found, and these from the chain.
`Chain.Usable` says what a usable record is on the chain alone: what was met is well formed, what
was not met failed only for now, nothing leads back, and the limits were kept. `isValid_iff_usable`
shows that the verdict says this of a domain with one record, whichever limits the walk and the
issues go by.
-/

namespace SenderPolicy

/-- A domain that was met failed in a way: what is said of it is said of such a failure. -/
def Chain.FailedAs (c : Chain) (n : Node) (kind : FailureKind) : Prop :=
  ∃ m, n.error = some m ∧ ⟨n.domain, kind, m⟩ ∈ c.failures

/-- What an expansion has found if the record can be used, with a limit on the lookups charged. -/
structure Chain.Usable (c : Chain) (limit : Int) : Prop where
  /-- Every record that was met is well formed. -/
  wellFormed : ∀ n ∈ c.nodes, ∀ r, n.record = some r → r.isWellFormed = true
  /-- No domain that is referred to publishes no record. -/
  not_missing : ∀ n ∈ c.nodes, n.via.isSome = true → ¬ c.FailedAs n .missing
  /-- Every domain that was met without a record is one whose lookup failed. -/
  lookupFailed : ∀ n ∈ c.nodes, n.record = none → c.FailedAs n .lookupFailed
  /-- No reference leads back to a domain under evaluation. -/
  cycles_eq_nil : c.cycles = []
  /-- The lookups charged are within the limit. -/
  lookups_le : c.lookups ≤ limit
  /-- The time sufficed. -/
  in_time : c.timedOut = false

/-! ## From issues to the verdict -/

/-- A chain without a root is not valid. -/
theorem Chain.isValid_report_of_root_eq_none {c : Chain} (hroot : c.root = none)
    (limit : LookupLimit) (moment : Instant) :
    (c.report (c.issues limit) moment).isValid = false := by
  simp [report, hroot]

/-- A chain with a root is valid if the root is well formed and nothing but failures of lookups was
met on the way. -/
theorem Chain.isValid_report_iff {c : Chain} {root : Record} (hroot : c.root = some root)
    {limit : LookupLimit} {moment : Instant} :
    (c.report (c.issues limit) moment).isValid = true ↔ root.isWellFormed = true ∧
      c.exceeds limit = false ∧ c.spfRecords.length ≤ 1 ∧ c.cycles = [] ∧
        (∀ f ∈ c.failures, f.kind = .lookupFailed) ∧ c.timedOut = false := by
  have hverdict : (c.report (c.issues limit) moment).isValid = true ↔
      root.isWellFormed = true ∧ ∀ i ∈ c.recordIssues limit root, i.isError = false := by
    simp [report, issues, hroot]
  rw [hverdict]
  exact and_congr_right fun hw => forall_not_isError_iff hw

section Timing

variable {τ : Type} [Seconds τ]

section Walk

variable {z : Zone τ} {deadline now : τ} {budget : Nat} {frames : List Frame}

/-- The root of an expansion is well formed and all failures are those of lookups if and only if the
same can be seen of the domains that were met. -/
theorem forall_failures_iff {records : List Text} {root : Record} {c : Chain}
    (hc : (walk z deadline budget now frames).chain records root = c) :
    (root.isWellFormed = true ∧ ∀ f ∈ c.failures, f.kind = .lookupFailed) ↔
      (∀ n ∈ c.nodes, ∀ r, n.record = some r → r.isWellFormed = true) ∧
      (∀ n ∈ c.nodes, n.via.isSome = true → ¬ c.FailedAs n .missing) ∧
      ∀ n ∈ c.nodes, n.record = none → c.FailedAs n .lookupFailed := by
  subst hc
  simp only [Walk.chain, Chain.FailedAs, Walk.nodesFrom]
  constructor
  · rintro ⟨hroot, hf⟩
    refine ⟨fun n hn r hr => ?_, fun n hn _ hmissing => ?_, fun n hn hr => ?_⟩
    · rcases List.mem_cons.1 hn with rfl | hn
      · cases hr
        exact hroot
      · by_contra hw
        obtain ⟨f, hmem, hk⟩ :=
          exists_failure_of_not_isWellFormed hn hr (Bool.eq_false_iff.2 hw)
        exact absurd (hk.symm.trans (hf f hmem)) (by decide)
    · obtain ⟨m, -, hmem⟩ := hmissing
      cases hf _ hmem
    · rcases List.mem_cons.1 hn with rfl | hn
      · cases hr
      · obtain ⟨kind, m, -, hm, hmem⟩ := exists_failure_of_record_eq_none hn hr
        obtain rfl : kind = .lookupFailed := hf _ hmem
        exact ⟨m, hm, hmem⟩
  · rintro ⟨hw, hm, -⟩
    refine ⟨hw _ (List.mem_cons_self) root rfl, fun f hf => ?_⟩
    -- A failure is that of a domain that was met, which the conditions on the domains rule out.
    obtain ⟨n, hn, hd, ⟨-, r, hr, hbad⟩ | ⟨hk, hr, he⟩⟩ := exists_node_of_mem_failures_walk hf
    · have := hw n (List.mem_cons_of_mem _ hn) r hr
      exact absurd (this.symm.trans hbad) (by decide)
    · have hnot : f.kind ≠ .missing := fun hkind =>
        hm n (List.mem_cons_of_mem _ hn) (isSome_via_of_mem_nodes_walk hn)
          ⟨f.message, he, by rw [hd, ← hkind]; exact hf⟩
      cases hkind : f.kind with
      | missing => exact absurd hkind hnot
      | invalid => exact absurd hkind hk
      | lookupFailed => rfl

/-- The lookups charged are within both limits if neither is exceeded. -/
theorem exceeds_eq_false_iff {most : Nat} {limit : Int} {records : List Text} {root : Record}
    {c : Chain} (hc : (walk z deadline most now frames).chain records root = c) :
    c.exceeds limit = false ↔ c.lookups ≤ min (most : Int) limit := by
  -- The walk says by its flag what a comparison of the lookups with its limit would say.
  have hover : c.limitExceeded = true ↔ most < c.lookups := by
    rw [← hc]
    exact isOverBudget_iff_lt_charged.trans Int.ofNat_lt.symm
  simp only [Chain.exceeds, LookupLimit.isExceededBy, Bool.or_eq_false_iff,
    decide_eq_false_iff_not]
  rw [← Bool.not_eq_true, hover]
  omega

/-- An expansion with one record and no fault is a usable one. -/
theorem isValid_chain_walk_iff {most : Nat} {limit : Int} {moment : Instant} {raw : Text}
    {others : List Text} {root : Record} {c : Chain}
    (hc : (walk z deadline most now frames).chain (raw :: others) root = c) :
    (c.report (c.issues limit) moment).isValid = true ↔
      others = [] ∧ c.Usable (min (most : Int) limit) := by
  have hroot : c.root = some root := by rw [← hc]; rfl
  have hrecords : c.spfRecords.length ≤ 1 ↔ others = [] := by
    rw [← hc]
    cases others <;> simp [Walk.chain]
  have hmet := forall_failures_iff hc
  rw [Chain.isValid_report_iff hroot, exceeds_eq_false_iff hc, hrecords]
  constructor
  · rintro ⟨hw, hl, ho, hcycles, hf, ht⟩
    obtain ⟨hwell, hmissing, hfailed⟩ := hmet.1 ⟨hw, hf⟩
    exact ⟨ho, hwell, hmissing, hfailed, hcycles, hl, ht⟩
  · rintro ⟨ho, hu⟩
    obtain ⟨hw, hf⟩ := hmet.2 ⟨hu.wellFormed, hu.not_missing, hu.lookupFailed⟩
    exact ⟨hw, hu.lookups_le, ho, hu.cycles_eq_nil, hf, hu.in_time⟩

end Walk

/-- A report that is returned is valid if and only if the domain publishes exactly one record and
its expansion found a usable one, within the limit of the walk and that of the issues. -/
theorem isValid_iff_usable (z : Zone τ) (most : Nat) (limit : Int) (seconds now : τ)
    (moment : Instant) (domain : Text) (r : Report)
    (h : (Validator.validate ⟨⟨(most : Int), seconds⟩, limit⟩ z now moment domain).outcome =
      .ok r) :
    ∃ c, (Chain.resolve z ⟨(most : Int), seconds⟩ now domain).outcome = .ok c ∧
      (r.isValid = true ↔
        (∃ texts, z.answer (normalizeDomain domain) = .texts texts ∧
          (selectSpfRecords texts).length = 1) ∧ c.Usable (min (most : Int) limit)) ∧
      r.lookups = c.lookups ∧ (r.isValid = true → r.lookups ≤ limit) := by
  obtain ⟨c, hc, rfl⟩ := Traced.report_outcome_iff.1 h
  have hiff : (c.report (c.issues limit) moment).isValid = true ↔
      (∃ texts, z.answer (normalizeDomain domain) = .texts texts ∧
        (selectSpfRecords texts).length = 1) ∧ c.Usable (min (most : Int) limit) := by
    rcases Chain.resolve_outcome_cases hc with ⟨hp, hroot⟩ | ⟨texts, raw, others, ha, hs, he⟩
    · -- A domain that publishes no record has no root, and not one record either.
      have hinvalid := Chain.isValid_report_of_root_eq_none (c := c) (by rw [hroot]; rfl) limit
        moment
      refine iff_of_false (by simp [hinvalid]) ?_
      rintro ⟨⟨texts, ha, hone⟩, -⟩
      obtain ⟨raw, hraw⟩ := List.length_eq_one_iff.1 hone
      simp [Zone.published?, ha, hraw] at hp
    · -- Otherwise the chain is that of a walk, and the domain has one record if no others follow.
      obtain ⟨root, -, -, hwalk⟩ := Chain.evaluate_outcome_iff.1 he
      rw [isValid_chain_walk_iff hwalk]
      refine and_congr_left fun _ => ?_
      simp [ha, hs]
  exact ⟨c, hc, hiff, rfl, fun hv => Int.le_trans (hiff.1 hv).2.lookups_le (Int.min_le_right _ _)⟩

end Timing

/-- A zone in which one domain refers to others, whose lookups fail. -/
def refusingZone : Zone Rat where
  answer domain :=
    if domain = ("a" : Text) then .texts ["v=spf1 include:b -all"] else .failed "refused"
  delay _ := 0

/-- A record is valid with the lookup of a domain that failed, under a limit of ten lookups to the
walk and of one to the issues. -/
theorem refusingZone_usable :
    ∃ r c, (Validator.validate ⟨⟨(10 : Int), 5⟩, (1 : Int)⟩ refusingZone 0 ⟨2024, 1, 1, 0, 0, 0, 0⟩
        ("a" : Text)).outcome = .ok r ∧ r.isValid = true ∧ r.lookups ≤ 1 ∧
      (Chain.resolve refusingZone ⟨(10 : Int), 5⟩ 0 ("a" : Text)).outcome = .ok c ∧ c.Usable 1 := by
  obtain ⟨r, hr, hv⟩ : ∃ r, (Validator.validate ⟨⟨(10 : Int), 5⟩, (1 : Int)⟩ refusingZone 0
      ⟨2024, 1, 1, 0, 0, 0, 0⟩ ("a" : Text)).outcome = .ok r ∧ r.isValid = true :=
    exists_ok_of_map_toOption Report.isValid (by decide +kernel)
  obtain ⟨c, hc, hiff, -, hle⟩ := isValid_iff_usable refusingZone 10 1 5 0 _ _ r hr
  exact ⟨r, c, hr, hv, hle hv, hc, (hiff.1 hv).2⟩

end SenderPolicy
