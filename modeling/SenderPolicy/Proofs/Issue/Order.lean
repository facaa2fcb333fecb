import Mathlib.Data.List.TakeWhile
import SenderPolicy.Proofs.Issue.Raised
import SenderPolicy.Proofs.Record.Readable

/-!
# The order of issues

The issues of a chain are put together from parts, and each part has its own places in the
catalogue. `InPlaces` says of a list of issues that they stand in the order of the catalogue within
some places, and `InPlaces.append` that two such lists stand in order one after the other if the
places of the second follow those of the first. So the issues of all parts do
(`inPlaces_recordIssues`), and what has a kind to itself occurs once.

Loops and failures may have many issues. Of those, the first of every key is kept, which is what
erasing duplicates leaves (`firstOf_nil_eq_eraseDupsBy`). Which kinds exclude each other is seen
from the conditions under which they are raised (`Chain.Raises`), and from the terms of a record
without version tag, of which there are none.
-/

namespace SenderPolicy

/-! ## Places in the catalogue -/

namespace IssueKind

/-- Whether a kind tells of a domain without a usable record. -/
def isOfFailure : IssueKind → Bool
  | .includeMissingRecord | .includeInvalidRecord | .lookupFailed => true
  | _ => false

/-- The place of a kind in the catalogue. The kinds that tell of a domain without a usable record
share one place, that of the first of them. -/
def place (k : IssueKind) : Nat := all.idxOf (if k.isOfFailure then .includeMissingRecord else k)

/-- Whether a chain may have more than one issue at the place of a kind. -/
def mayRepeat (k : IssueKind) : Bool := k = .includeLoop || k.isOfFailure

/-- The kinds that no chain has together with a kind. -/
def excluded : IssueKind → List IssueKind
  | .tooManyLookups => [.approachingLookupLimit]
  | .permissiveAll => [.neutralAll]
  | .missingAll => [.permissiveAll, .neutralAll, .redirectWithAll, .termsAfterAll]
  | .missingVersion =>
    [.syntaxError, .missingAll, .unknownModifier, .permissiveAll, .neutralAll, .redirectWithAll,
     .termsAfterAll, .ptrMechanism]
  | _ => []

end IssueKind

/-- An issue may stand before another one: its place is before that of the other, or they share a
place at which there may be many. -/
def Issue.Precedes (i j : Issue) : Prop :=
  i.kind.place < j.kind.place ∨ i.kind.place = j.kind.place ∧ i.kind.mayRepeat = true

/-- Issues stand in the order of the catalogue, from a place on and before another one. -/
structure InPlaces (first past : Nat) (issues : List Issue) : Prop where
  /-- Every issue may stand before those after it. -/
  pairwise : issues.Pairwise Issue.Precedes
  /-- The places of the issues are within the bounds. -/
  mem : ∀ i ∈ issues, first ≤ i.kind.place ∧ i.kind.place < past

namespace InPlaces

variable {first mid past : Nat} {issues issues' : List Issue}

/-- No issues stand within any bounds. -/
theorem nil (first past : Nat) : InPlaces first past [] :=
  ⟨.nil, fun _ hi => absurd hi List.not_mem_nil⟩

/-- A single issue stands at the place of its kind. -/
theorem singleton (kind : IssueKind) (detail : Text) :
    InPlaces kind.place (kind.place + 1) [⟨kind, detail⟩] := by
  refine ⟨List.pairwise_singleton _ _, fun i hi => ?_⟩
  rw [List.mem_singleton.1 hi]
  exact ⟨Nat.le_refl _, Nat.lt_succ_self _⟩

/-- An issue without a detail stands at its place, if it is there. -/
theorem issueIf (condition : Bool) (kind : IssueKind) :
    InPlaces kind.place (kind.place + 1) (issueIf condition kind) := by
  cases condition with
  | false => exact nil _ _
  | true => exact singleton kind ""

/-- Issues that share a place stand there together if there may be many of them. -/
theorem of_mayRepeat {p : Nat} (h : ∀ i ∈ issues, i.kind.place = p ∧ i.kind.mayRepeat = true) :
    InPlaces p (p + 1) issues := by
  constructor
  · refine List.pairwise_of_forall_mem_list fun i hi j hj => .inr ⟨?_, (h i hi).2⟩
    rw [(h i hi).1, (h j hj).1]
  · intro i hi
    rw [(h i hi).1]
    exact ⟨Nat.le_refl p, Nat.lt_succ_self p⟩

/-- Wider bounds hold the same issues. -/
theorem mono (h : InPlaces first past issues) {first' past' : Nat} (hfirst : first' ≤ first)
    (hpast : past ≤ past') : InPlaces first' past' issues where
  pairwise := h.pairwise
  mem i hi := ⟨Nat.le_trans hfirst (h.mem i hi).1, Nat.lt_of_lt_of_le (h.mem i hi).2 hpast⟩

/-- Issues stand in order after others if their places follow those of the others. -/
theorem append (h : InPlaces first mid issues) (h' : InPlaces mid past issues')
    (hfirst : first ≤ mid) (hpast : mid ≤ past) : InPlaces first past (issues ++ issues') := by
  refine ⟨List.pairwise_append.2 ⟨h.pairwise, h'.pairwise, fun i hi j hj => .inl ?_⟩,
    fun i hi => ?_⟩
  · exact Nat.lt_of_lt_of_le (h.mem i hi).2 (h'.mem j hj).1
  · rcases List.mem_append.1 hi with hi | hi
    · exact ⟨(h.mem i hi).1, Nat.lt_of_lt_of_le (h.mem i hi).2 hpast⟩
    · exact ⟨Nat.le_trans hfirst (h'.mem i hi).1, (h'.mem i hi).2⟩

/-- None of the issues are of kinds with a place outside the bounds. -/
theorem filter_eq_nil (h : InPlaces first past issues) {p : IssueKind → Bool} {q : Nat}
    (hp : ∀ k, p k = true → k.place = q) (hq : q < first ∨ past ≤ q) :
    issues.filter (fun i => p i.kind) = [] := by
  refine List.filter_eq_nil_iff.2 fun i hi hpi => ?_
  have hbounds := h.mem i hi
  rw [hp i.kind hpi] at hbounds
  omega

/-- The places of issues in order do not fall. -/
theorem pairwise_place_le (h : InPlaces first past issues) :
    (issues.map fun i => i.kind.place).Pairwise (· ≤ ·) := by
  refine List.pairwise_map.2 (h.pairwise.imp fun hij => ?_)
  rcases hij with hlt | ⟨heq, -⟩
  · exact Nat.le_of_lt hlt
  · exact Nat.le_of_eq heq

/-- Of issues in order, at most one is of a kind that may not repeat. -/
theorem countP_kind_le_one (h : InPlaces first past issues) {k : IssueKind}
    (hk : k.mayRepeat = false) : issues.countP (fun i => i.kind = k) ≤ 1 := by
  have hpairwise := h.pairwise.filter fun i => i.kind = k
  have hkind : ∀ i ∈ issues.filter (fun i => i.kind = k), i.kind = k := by
    intro i hi
    simpa using (List.mem_filter.1 hi).2
  rw [List.countP_eq_length_filter]
  cases hissues : issues.filter fun i => i.kind = k with
  | nil => exact Nat.zero_le 1
  | cons i rest =>
    cases rest with
    | nil => exact Nat.le_refl 1
    | cons j rest =>
      -- Two issues of the kind would share its place.
      rw [hissues] at hpairwise hkind
      have hi := hkind i List.mem_cons_self
      have hj := hkind j (List.mem_cons_of_mem _ List.mem_cons_self)
      rcases List.rel_of_pairwise_cons hpairwise List.mem_cons_self with hlt | ⟨-, hrepeat⟩
      · rw [hi, hj] at hlt
        exact absurd hlt (Nat.lt_irrefl _)
      · rw [hi, hk] at hrepeat
        cases hrepeat

end InPlaces

/-! ## The parts of the issues -/

/-- The kinds of failures share a place. -/
theorem IssueKind.place_of_isOfFailure {k : IssueKind} (h : k.isOfFailure = true) :
    k.place = IssueKind.includeMissingRecord.place := by
  unfold place
  rw [if_pos h]
  rfl

/-- A kind is at its own place. -/
theorem IssueKind.place_of_eq (kind : IssueKind) :
    ∀ k : IssueKind, decide (k = kind) = true → k.place = kind.place :=
  fun _ hk => congrArg place (of_decide_eq_true hk)

/-- The issue of a failure is of a kind that tells of one. -/
theorem Failure.isOfFailure_kind_issue (f : Failure) : f.issue.kind.isOfFailure = true := by
  unfold issue
  cases f.kind <;> rfl

/-- The issue of a record that is not well formed stands first. -/
theorem Record.inPlaces_formIssues (r : Record) :
    InPlaces 0 IssueKind.tooManyLookups.place r.formIssues := by
  unfold formIssues
  split
  · exact .nil _ _
  · exact (InPlaces.singleton .missingVersion _).mono (by decide) (by decide)
  · exact (InPlaces.singleton .syntaxError _).mono (by decide) (by decide)

/-- The issues of an `all` mechanism that leaves other senders unmarked stand after those of loops.
-/
theorem Record.inPlaces_defaultIssues (r : Record) :
    InPlaces IssueKind.permissiveAll.place IssueKind.redirectWithAll.place r.defaultIssues :=
  (InPlaces.issueIf _ .permissiveAll).append (InPlaces.issueIf _ .neutralAll) (by decide)
    (by decide)

/-- The issue of unknown modifiers stands at its place. -/
theorem Record.inPlaces_unknownModifierIssues (r : Record) :
    InPlaces IssueKind.unknownModifier.place IssueKind.multipleRecords.place
      r.unknownModifierIssues := by
  unfold unknownModifierIssues
  split
  · exact .nil _ _
  · exact .singleton .unknownModifier _

/-- The issue of mechanisms after the first `all` stands at its place. -/
theorem Record.inPlaces_afterAllIssues (r : Record) :
    InPlaces IssueKind.termsAfterAll.place IssueKind.ptrMechanism.place r.afterAllIssues := by
  unfold afterAllIssues
  split
  · exact .nil _ _
  · exact .singleton .termsAfterAll _

namespace Chain

variable (c : Chain) (limit : LookupLimit)

/-- The issues of loops stand together. -/
theorem inPlaces_loopIssues :
    InPlaces IssueKind.includeLoop.place IssueKind.permissiveAll.place c.loopIssues := by
  refine .of_mayRepeat fun i hi => ?_
  obtain ⟨edge, -, rfl⟩ := List.mem_map.1 hi
  exact ⟨rfl, rfl⟩

/-- The issue of a number of lookups near the limit stands at its place. -/
theorem inPlaces_nearLimitIssues :
    InPlaces IssueKind.approachingLookupLimit.place IssueKind.includeMissingRecord.place
      (c.nearLimitIssues limit) := by
  unfold nearLimitIssues
  split
  · exact .singleton .approachingLookupLimit _
  · exact .nil _ _

/-- The issues of failures stand together. -/
theorem inPlaces_failureIssues :
    InPlaces IssueKind.includeMissingRecord.place (IssueKind.includeMissingRecord.place + 1)
      c.failureIssues := by
  refine .of_mayRepeat fun i hi => ?_
  obtain ⟨f, -, rfl⟩ := List.mem_map.1 hi
  have hkind := f.isOfFailure_kind_issue
  exact ⟨IssueKind.place_of_isOfFailure hkind, by simp [IssueKind.mayRepeat, hkind]⟩

/-- The issue of a timeout stands last. -/
theorem inPlaces_timeoutIssues :
    InPlaces IssueKind.resolutionTimeout.place IssueKind.missingRecord.place c.timeoutIssues := by
  unfold timeoutIssues
  split
  · exact .singleton .resolutionTimeout _
  · exact .nil _ _

/-- The issues of a chain stand in order around those of loops, of failures and of a timeout. -/
theorem exists_recordIssues_eq (r : Record) : ∃ before between,
    c.recordIssues limit r =
        before ++ (c.loopIssues ++ (between ++ (c.failureIssues ++ c.timeoutIssues))) ∧
      InPlaces 0 IssueKind.includeLoop.place before ∧
      InPlaces IssueKind.permissiveAll.place IssueKind.includeMissingRecord.place between := by
  -- Before the loops stand the parts up to the one of several records, between the loops and the
  -- failures the parts up to the one of the limit.
  refine ⟨r.formIssues ++ (c.overLimitIssues limit ++ (r.missingAllIssues ++
      (r.unknownModifierIssues ++ c.multipleIssues))),
    r.defaultIssues ++ (r.redirectIssues ++ (r.afterAllIssues ++ (r.ptrIssues ++
      c.nearLimitIssues limit))),
    by simp only [recordIssues, List.append_assoc], ?_, ?_⟩
  · refine r.inPlaces_formIssues.append ?_ (by decide) (by decide)
    refine (InPlaces.issueIf _ .tooManyLookups).append ?_ (by decide) (by decide)
    refine (InPlaces.issueIf _ .missingAll).append ?_ (by decide) (by decide)
    exact r.inPlaces_unknownModifierIssues.append (InPlaces.issueIf _ .multipleRecords)
      (by decide) (by decide)
  · refine r.inPlaces_defaultIssues.append ?_ (by decide) (by decide)
    refine (InPlaces.issueIf _ .redirectWithAll).append ?_ (by decide) (by decide)
    refine r.inPlaces_afterAllIssues.append ?_ (by decide) (by decide)
    exact (InPlaces.issueIf _ .ptrMechanism).append (c.inPlaces_nearLimitIssues limit)
      (by decide) (by decide)

end Chain

/-! ## Kinds that exclude each other -/

namespace Record

variable {r : Record}

/-- Nothing stands after an `all` mechanism if there is none. -/
theorem termsAfterAll_eq_nil (h : r.default? = none) : r.termsAfterAll = [] := by
  have hall : r.allQualifiers = [] := List.getLast?_eq_none_iff.1 h
  unfold termsAfterAll
  rw [List.dropWhile_eq_nil_iff.2 fun t ht => ?_]
  · rfl
  · have hnot := List.filterMap_eq_nil_iff.1 hall t ht
    split at hnot
    · cases hnot
    · rfl

end Record

/-- A chain does not raise an issue of a kind that is excluded by one of its issues. -/
theorem Chain.not_raises_of_mem_excluded {c : Chain} {limit : LookupLimit} {r : Record}
    {raw domain : Text} (hread : Record.read raw domain = .ok r) {k k' : IssueKind}
    (hk : c.Raises limit r k) (hk' : k' ∈ k.excluded) : ¬ c.Raises limit r k' := by
  cases k with
  | tooManyLookups =>
    obtain rfl := List.mem_singleton.1 hk'
    rintro ⟨hlimit, hnear⟩
    have hexceeded : limit.isExceededBy c.lookups = true := by
      simpa [Raises, exceeds, hlimit] using hk
    rw [LookupLimit.isNear_eq_false hexceeded] at hnear
    cases hnear
  | permissiveAll =>
    obtain rfl := List.mem_singleton.1 hk'
    intro hneutral
    cases hk.symm.trans hneutral
  | missingAll =>
    have hall : r.default? = none := hk.2
    have hafter := Record.termsAfterAll_eq_nil hall
    simp only [IssueKind.excluded, List.mem_cons, List.not_mem_nil, or_false] at hk'
    rcases hk' with rfl | rfl | rfl | rfl <;> simp [Raises, hall, hafter]
  | missingVersion =>
    have hnone : r.diagnostic = some .noVersion := hk
    have hversion : r.hasVersion = false := by simp [Record.hasVersion, hnone]
    have hterms := Record.terms_eq_nil_of_read hread hversion
    simp only [IssueKind.excluded, List.mem_cons, List.not_mem_nil, or_false] at hk'
    -- All of these ask for the version tag, or for a term.
    rcases hk' with rfl | rfl | rfl | rfl | rfl | rfl | rfl | rfl <;>
      simp [Raises, hversion, hterms, Record.default?, Record.allQualifiers,
        Record.unknownModifiers, Record.termsAfterAll, Record.usesPtr]
  | _ => cases hk'

/-! ## The issues of a chain -/

/-- The issue of a loop. -/
def loopIssue (edge : Text × Text) : Issue := ⟨.includeLoop, edge.1 ++ " -> " ++ edge.2⟩

/-- Two failures are of the same domain, for the same reason. -/
def Failure.isLike (f g : Failure) : Bool := f.kind == g.kind && f.domain == g.domain

/-- Keeping the first item of every key is erasing duplicates among the items with keys that have
not been seen. -/
theorem firstOf_eq_eraseDupsBy {α β : Type} [BEq β] (key : α → β) (seen : List β) (xs : List α) :
    firstOf key seen xs =
      (xs.filter fun x => !seen.contains (key x)).eraseDupsBy fun x y => key x == key y := by
  induction xs generalizing seen with
  | nil => rfl
  | cons x xs ih =>
    unfold firstOf
    split
    · rename_i hx
      rw [ih, List.filter_cons_of_neg (by simp [hx])]
    · rename_i hx
      rw [ih, List.filter_cons_of_pos (by simp [hx]), List.eraseDupsBy_cons, List.filter_filter]
      congr 2
      refine List.filter_congr fun y _ => ?_
      rw [List.contains_cons]
      cases key y == key x <;> simp

/-- Keeping the first item of every key is erasing duplicates. -/
theorem firstOf_nil_eq_eraseDupsBy {α β : Type} [BEq β] (key : α → β) (xs : List α) :
    firstOf key [] xs = xs.eraseDupsBy fun x y => key x == key y := by
  have hall : (xs.filter fun x => !([] : List β).contains (key x)) = xs :=
    List.filter_eq_self.2 fun _ _ => rfl
  rw [firstOf_eq_eraseDupsBy, hall]

namespace Chain

/-- What holds of the issues of a chain whose domain has a record. -/
structure HasInOrder (c : Chain) (issues : List Issue) : Prop where
  /-- They stand in the order of the catalogue. -/
  ordered : (issues.map fun i => i.kind.place).Pairwise (· ≤ ·)
  /-- Of every kind there is at most one, but for loops and failures. -/
  once : ∀ k : IssueKind, k.mayRepeat = false → issues.countP (fun i => i.kind = k) ≤ 1
  /-- There is one for every loop, in the order of the loops. -/
  loops : issues.filter (fun i => i.kind = .includeLoop) = c.cycles.eraseDups.map loopIssue
  /-- There is one for every failure of a domain, in the order of the failures. -/
  failures : issues.filter (fun i => i.kind.isOfFailure) =
    (c.failures.eraseDupsBy Failure.isLike).map Failure.issue
  /-- None is of a kind that is excluded by another one. -/
  exclusive : ∀ i ∈ issues, ∀ j ∈ issues, j.kind ∉ i.kind.excluded

variable (c : Chain) (limit : LookupLimit)

/-- Every loop has one issue. -/
theorem loopIssues_eq : c.loopIssues = c.cycles.eraseDups.map loopIssue := by
  rw [loopIssues, firstOf_nil_eq_eraseDupsBy]
  rfl

/-- Every failure of a domain has one issue. -/
theorem failureIssues_eq :
    c.failureIssues = (c.failures.eraseDupsBy Failure.isLike).map Failure.issue := by
  rw [failureIssues, firstOf_nil_eq_eraseDupsBy]
  rfl

/-- The issues of a chain stand in the order of the catalogue. -/
theorem inPlaces_recordIssues (r : Record) :
    InPlaces 0 IssueKind.missingRecord.place (c.recordIssues limit r) := by
  obtain ⟨before, between, heq, hbefore, hbetween⟩ := c.exists_recordIssues_eq limit r
  rw [heq]
  refine hbefore.append ?_ (by decide) (by decide)
  refine c.inPlaces_loopIssues.append ?_ (by decide) (by decide)
  refine hbetween.append ?_ (by decide) (by decide)
  exact c.inPlaces_failureIssues.append
    (c.inPlaces_timeoutIssues.mono (by decide) (Nat.le_refl _)) (by decide) (by decide)

/-- The issues of loops are those of their kind. -/
theorem filter_includeLoop (r : Record) :
    (c.recordIssues limit r).filter (fun i => i.kind = .includeLoop) = c.loopIssues := by
  obtain ⟨before, between, heq, hbefore, hbetween⟩ := c.exists_recordIssues_eq limit r
  have hall : c.loopIssues.filter (fun i => i.kind = .includeLoop) = c.loopIssues := by
    refine List.filter_eq_self.2 fun i hi => ?_
    obtain ⟨edge, -, rfl⟩ := List.mem_map.1 hi
    rfl
  have hplace := IssueKind.place_of_eq .includeLoop
  rw [heq]
  simp only [List.filter_append]
  rw [hbefore.filter_eq_nil hplace (by decide), hall, hbetween.filter_eq_nil hplace (by decide),
    c.inPlaces_failureIssues.filter_eq_nil hplace (by decide),
    c.inPlaces_timeoutIssues.filter_eq_nil hplace (by decide)]
  simp

/-- The issues of failures are those of their kinds. -/
theorem filter_isOfFailure (r : Record) :
    (c.recordIssues limit r).filter (fun i => i.kind.isOfFailure) = c.failureIssues := by
  obtain ⟨before, between, heq, hbefore, hbetween⟩ := c.exists_recordIssues_eq limit r
  have hall : c.failureIssues.filter (fun i => i.kind.isOfFailure) = c.failureIssues := by
    refine List.filter_eq_self.2 fun i hi => ?_
    obtain ⟨f, -, rfl⟩ := List.mem_map.1 hi
    exact f.isOfFailure_kind_issue
  have hplace := fun k => IssueKind.place_of_isOfFailure (k := k)
  rw [heq]
  simp only [List.filter_append]
  rw [hbefore.filter_eq_nil hplace (by decide),
    c.inPlaces_loopIssues.filter_eq_nil hplace (by decide),
    hbetween.filter_eq_nil hplace (by decide), hall,
    c.inPlaces_timeoutIssues.filter_eq_nil hplace (by decide)]
  simp

/-- The issues that tell of a timeout are those that are found for it, and no others. -/
theorem filter_resolutionTimeout (r : Record) :
    (c.recordIssues limit r).filter (fun i => i.kind = .resolutionTimeout) = c.timeoutIssues := by
  obtain ⟨before, between, heq, hbefore, hbetween⟩ := c.exists_recordIssues_eq limit r
  have hall : c.timeoutIssues.filter (fun i => i.kind = .resolutionTimeout) = c.timeoutIssues := by
    unfold timeoutIssues
    split <;> rfl
  have hplace := IssueKind.place_of_eq .resolutionTimeout
  rw [heq]
  simp only [List.filter_append]
  rw [hbefore.filter_eq_nil hplace (by decide),
    c.inPlaces_loopIssues.filter_eq_nil hplace (by decide),
    hbetween.filter_eq_nil hplace (by decide),
    c.inPlaces_failureIssues.filter_eq_nil hplace (by decide), hall]
  simp

end Chain

/-- A domain without a record has the issue of that, and no other. The issues of a chain whose
domain has a record that was read stand in the order of the catalogue, each of them once: one for
every loop and every failure of a domain, and none of a kind that another one excludes. -/
theorem issues_in_order (c : Chain) (limit : LookupLimit) :
    (c.root = none → c.issues limit = [⟨.missingRecord, ""⟩]) ∧
      ∀ r raw domain, c.root = some r → Record.read raw domain = .ok r →
        c.HasInOrder (c.issues limit) := by
  constructor
  · intro hroot
    rw [Chain.issues, hroot]
  · intro r raw domain hroot hread
    have hissues : c.issues limit = c.recordIssues limit r := by rw [Chain.issues, hroot]
    rw [hissues]
    have hplaces := c.inPlaces_recordIssues limit r
    constructor
    case ordered => exact hplaces.pairwise_place_le
    case once => exact fun k hk => hplaces.countP_kind_le_one hk
    case loops => rw [c.filter_includeLoop, c.loopIssues_eq]
    case failures => rw [c.filter_isOfFailure, c.failureIssues_eq]
    case exclusive =>
      intro i hi j hj hexcluded
      have hraised := Chain.exists_issue_iff.1 ⟨i, hi, rfl⟩
      exact Chain.not_raises_of_mem_excluded hread hraised hexcluded
        (Chain.exists_issue_iff.1 ⟨j, hj, rfl⟩)

/-- A chain of a domain with a record. One reference leads back twice, and one domain has failures
of two kinds, one of them twice. -/
def repeatingChain (r : Record) : Chain where
  domain := r.domain
  root := some r
  spfRecords := [r.raw]
  nodes := []
  lookups := 9
  limitExceeded := false
  timedOut := true
  cycles := [("c.d", "a.b"), ("a.b", "a.b"), ("c.d", "a.b")]
  failures := [⟨"e.f", .lookupFailed, ""⟩, ⟨"c.d", .missing, ""⟩, ⟨"e.f", .missing, ""⟩,
    ⟨"e.f", .lookupFailed, ""⟩]
  unresolved := []
  rootError := none

/-- The chain of a record that passes every sender has one issue for every loop and failure. A chain
in which nothing was found yet has the issue of a domain without a record. -/
theorem repeatingChain_in_order :
    (∃ r, Record.read "v=spf1 +all mx" "a.b" = .ok r ∧
      (repeatingChain r).HasInOrder ((repeatingChain r).issues (10 : Int)) ∧
      ((repeatingChain r).issues (10 : Int)).map Issue.kind =
        [.includeLoop, .includeLoop, .permissiveAll, .termsAfterAll, .approachingLookupLimit,
         .lookupFailed, .includeMissingRecord, .includeMissingRecord, .resolutionTimeout]) ∧
      (Chain.ofDomain "a.b").issues (10 : Int) = [⟨.missingRecord, ""⟩] := by
  obtain ⟨r, hr, hkinds⟩ : ∃ r, Record.read "v=spf1 +all mx" "a.b" = .ok r ∧
      ((repeatingChain r).issues (10 : Int)).map Issue.kind =
        [.includeLoop, .includeLoop, .permissiveAll, .termsAfterAll, .approachingLookupLimit,
         .lookupFailed, .includeMissingRecord, .includeMissingRecord, .resolutionTimeout] :=
    exists_ok_of_map_toOption
      (fun r => ((repeatingChain r).issues (10 : Int)).map Issue.kind) (by decide +kernel)
  exact ⟨⟨r, hr, (issues_in_order (repeatingChain r) _).2 r _ _ rfl hr, hkinds⟩,
    (issues_in_order (Chain.ofDomain "a.b") _).1 rfl⟩

end SenderPolicy
