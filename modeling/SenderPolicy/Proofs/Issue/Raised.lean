import SenderPolicy.Issue.Detection

/-!
# Which issues are raised

`Chain.Raises` says of every kind of issue when a chain with a record has one, each kind on its own
and without the order in which issues are found. `exists_issue_iff` shows that the issues that are
found are these, and `forall_not_isError_iff` what it takes that none of them is an error.
-/

namespace SenderPolicy

/-- The conditions under which a chain whose root has the record `r` has an issue of a kind. -/
def Chain.Raises (c : Chain) (limit : LookupLimit) (r : Record) : IssueKind → Prop
  | .missingVersion => r.diagnostic = some .noVersion
  | .syntaxError => r.hasVersion = true ∧ r.isWellFormed = false
  | .tooManyLookups => c.exceeds limit = true
  | .missingAll => r.hasVersion = true ∧ r.default? = none
  | .unknownModifier => r.unknownModifiers ≠ []
  | .multipleRecords => 1 < c.spfRecords.length
  | .includeLoop => c.cycles ≠ []
  | .permissiveAll => r.default? = some .pass
  | .neutralAll => r.default? = some .neutral
  | .redirectWithAll => r.default?.isSome = true ∧ r.redirect?.isSome = true
  | .termsAfterAll => r.termsAfterAll ≠ []
  | .ptrMechanism => r.usesPtr = true
  | .approachingLookupLimit => c.limitExceeded = false ∧ limit.isNear c.lookups = true
  | .includeMissingRecord => ∃ f ∈ c.failures, f.kind = .missing
  | .includeInvalidRecord => ∃ f ∈ c.failures, f.kind = .invalid
  | .lookupFailed => ∃ f ∈ c.failures, f.kind = .lookupFailed
  | .resolutionTimeout => c.timedOut = true
  | .missingRecord => False

/-! ## The kinds in each part of the issues -/

/-- An issue without a detail is there if its condition holds. -/
@[simp]
theorem mem_kinds_issueIf {condition : Bool} {kind k : IssueKind} :
    k ∈ (issueIf condition kind).map Issue.kind ↔ condition = true ∧ k = kind := by
  cases condition <;> simp [issueIf]

/-- There is an item that is kept if and only if there is an item. -/
theorem firstOf_nil_eq_nil_iff {α β : Type} [BEq β] (key : α → β) {xs : List α} :
    firstOf key [] xs = [] ↔ xs = [] := by
  cases xs <;> simp [firstOf]

/-- A record that is not well formed has one of two issues. -/
theorem Record.mem_kinds_formIssues {r : Record} {k : IssueKind} :
    k ∈ r.formIssues.map Issue.kind ↔
      r.diagnostic = some .noVersion ∧ k = .missingVersion ∨
      (r.hasVersion = true ∧ r.isWellFormed = false) ∧ k = .syntaxError := by
  unfold formIssues hasVersion isWellFormed
  rcases r.diagnostic with _ | _ | _ | _ <;> simp

/-- Every loop has an issue. -/
theorem Chain.mem_kinds_loopIssues {c : Chain} {k : IssueKind} :
    k ∈ c.loopIssues.map Issue.kind ↔ c.cycles ≠ [] ∧ k = .includeLoop := by
  have hkinds : c.loopIssues.map Issue.kind =
      (firstOf id [] c.cycles).map fun _ => IssueKind.includeLoop := by
    simp [loopIssues, Function.comp_def]
  rw [hkinds, List.map_const', List.mem_replicate, ne_eq, ne_eq, List.length_eq_zero_iff,
    firstOf_nil_eq_nil_iff]

/-- Every failure has an issue, each kind of failure its own. -/
theorem Chain.mem_kinds_failureIssues {c : Chain} {k : IssueKind} :
    k ∈ c.failureIssues.map Issue.kind ↔
      (∃ f ∈ c.failures, f.kind = .missing) ∧ k = .includeMissingRecord ∨
      (∃ f ∈ c.failures, f.kind = .invalid) ∧ k = .includeInvalidRecord ∨
      (∃ f ∈ c.failures, f.kind = .lookupFailed) ∧ k = .lookupFailed := by
  have hkinds : k ∈ c.failureIssues.map Issue.kind ↔ ∃ f ∈ c.failures, f.kind.issueKind = k := by
    simp only [failureIssues, List.map_map, List.mem_map, Function.comp_apply, Failure.issue]
    constructor
    · rintro ⟨f, hf, hk⟩
      exact ⟨f, (firstOf_sublist _ _ _).mem hf, hk⟩
    · -- The failure may have been left out for an earlier one, which is of the same kind.
      rintro ⟨f, hf, hk⟩
      obtain ⟨g, hg, hkey⟩ := exists_mem_firstOf (fun f : Failure => (f.kind, f.domain)) hf
        (List.not_mem_nil)
      exact ⟨g, hg, by rw [← hk, (Prod.mk.inj hkey).1]⟩
  rw [hkinds]
  constructor
  · rintro ⟨f, hf, rfl⟩
    cases hk : f.kind with
    | missing => exact .inl ⟨⟨f, hf, hk⟩, rfl⟩
    | invalid => exact .inr (.inl ⟨⟨f, hf, hk⟩, rfl⟩)
    | lookupFailed => exact .inr (.inr ⟨⟨f, hf, hk⟩, rfl⟩)
  · rintro (⟨⟨f, hf, hk⟩, rfl⟩ | ⟨⟨f, hf, hk⟩, rfl⟩ | ⟨⟨f, hf, hk⟩, rfl⟩) <;>
      exact ⟨f, hf, by rw [hk]; rfl⟩

/-- Modifiers with unknown names have one issue together. -/
theorem Record.mem_kinds_unknownModifierIssues {r : Record} {k : IssueKind} :
    k ∈ r.unknownModifierIssues.map Issue.kind ↔
      r.unknownModifiers ≠ [] ∧ k = .unknownModifier := by
  unfold unknownModifierIssues
  cases r.unknownModifiers <;> simp

/-- Mechanisms after the first `all` have one issue together. -/
theorem Record.mem_kinds_afterAllIssues {r : Record} {k : IssueKind} :
    k ∈ r.afterAllIssues.map Issue.kind ↔ r.termsAfterAll ≠ [] ∧ k = .termsAfterAll := by
  unfold afterAllIssues
  cases r.termsAfterAll <;> simp

/-- A number of lookups near the limit has an issue if the expansion was not halted at the limit. -/
theorem Chain.mem_kinds_nearLimitIssues {c : Chain} {limit : LookupLimit} {k : IssueKind} :
    k ∈ (c.nearLimitIssues limit).map Issue.kind ↔
      (c.limitExceeded = false ∧ limit.isNear c.lookups = true) ∧ k = .approachingLookupLimit := by
  unfold nearLimitIssues
  split <;> simp_all

/-- An expansion that ran out of time has an issue. -/
theorem Chain.mem_kinds_timeoutIssues {c : Chain} {k : IssueKind} :
    k ∈ c.timeoutIssues.map Issue.kind ↔ c.timedOut = true ∧ k = .resolutionTimeout := by
  unfold timeoutIssues
  split <;> simp_all

/-! ## All issues -/

/-- The issues that are found are those that the chain raises. -/
theorem Chain.exists_issue_iff {c : Chain} {limit : LookupLimit} {r : Record} {k : IssueKind} :
    (∃ i ∈ c.recordIssues limit r, i.kind = k) ↔ c.Raises limit r k := by
  -- Every part of the issues has one kind, and its own condition.
  rw [← List.mem_map]
  simp only [recordIssues, List.map_append, List.mem_append, Record.mem_kinds_formIssues,
    overLimitIssues, Record.missingAllIssues, multipleIssues, mem_kinds_loopIssues,
    Record.defaultIssues, Record.redirectIssues, Record.ptrIssues, mem_kinds_failureIssues,
    mem_kinds_issueIf, Record.mem_kinds_unknownModifierIssues, Record.mem_kinds_afterAllIssues,
    mem_kinds_nearLimitIssues, mem_kinds_timeoutIssues]
  cases k <;> simp [Raises]

/-- No issues are of kinds that none of them has. -/
theorem filter_kind_eq_nil {issues : List Issue} (p : IssueKind → Bool)
    (h : ∀ k, p k = true → k ∉ issues.map Issue.kind) : issues.filter (fun i => p i.kind) = [] :=
  List.filter_eq_nil_iff.2 fun i hi hp => h i.kind hp (List.mem_map_of_mem hi)

/-- No issues that are all of one kind are of kinds to which it does not belong. -/
theorem filter_kind_eq_nil_of_mem_iff {issues : List Issue} {condition : Prop} {kind : IssueKind}
    (p : IssueKind → Bool) (h : ∀ {k}, k ∈ issues.map Issue.kind ↔ condition ∧ k = kind)
    (hp : p kind = false) : issues.filter (fun i => p i.kind) = [] := by
  refine filter_kind_eq_nil p fun k hk hmem => ?_
  rw [(h.1 hmem).2, hp] at hk
  cases hk

/-- A chain with a well-formed record has no error if it is within its limits, leads nowhere back
and has no failures but those of lookups. -/
theorem Chain.forall_not_isError_iff {c : Chain} {limit : LookupLimit} {r : Record}
    (hr : r.isWellFormed = true) : (∀ i ∈ c.recordIssues limit r, i.isError = false) ↔
      c.exceeds limit = false ∧ c.spfRecords.length ≤ 1 ∧ c.cycles = [] ∧
        (∀ f ∈ c.failures, f.kind = .lookupFailed) ∧ c.timedOut = false := by
  -- How much an issue weighs is a matter of its kind.
  have hkinds : (∀ i ∈ c.recordIssues limit r, i.isError = false) ↔
      ∀ k : IssueKind, k.severity = .error → ¬ c.Raises limit r k := by
    simp only [← exists_issue_iff, Issue.isError, decide_eq_false_iff_not]
    constructor
    · rintro h k hk ⟨i, hi, rfl⟩
      exact h i hi hk
    · intro h i hi hk
      exact h i.kind hk ⟨i, hi, rfl⟩
  rw [hkinds]
  constructor
  · intro h
    refine ⟨?_, ?_, ?_, fun f hf => ?_, ?_⟩
    · simpa [Raises] using h .tooManyLookups rfl
    · simpa [Raises] using h .multipleRecords rfl
    · simpa [Raises] using h .includeLoop rfl
    · cases hk : f.kind with
      | missing => exact absurd ⟨f, hf, hk⟩ (h .includeMissingRecord rfl)
      | invalid => exact absurd ⟨f, hf, hk⟩ (h .includeInvalidRecord rfl)
      | lookupFailed => rfl
    · simpa [Raises] using h .resolutionTimeout rfl
  · rintro ⟨hl, hm, hc, hf, ht⟩ k hk hraised
    have hd : r.diagnostic = none := by simpa [Record.isWellFormed] using hr
    cases k with
    | missingVersion => simp [Raises, hd] at hraised
    | syntaxError => simp [Raises, hr] at hraised
    | tooManyLookups => simp [Raises, hl] at hraised
    | multipleRecords => exact absurd hraised (Nat.not_lt.2 hm)
    | includeLoop => exact hraised hc
    | includeMissingRecord =>
      obtain ⟨f, hmem, hkind⟩ := hraised
      rw [hf f hmem] at hkind
      cases hkind
    | includeInvalidRecord =>
      obtain ⟨f, hmem, hkind⟩ := hraised
      rw [hf f hmem] at hkind
      cases hkind
    | resolutionTimeout => simp [Raises, ht] at hraised
    | missingRecord => exact hraised
    | _ => cases hk

end SenderPolicy
