import SenderPolicy.Assessor
import SenderPolicy.Proofs.Chain.Expansion
import SenderPolicy.Proofs.Issue.Raised

/-!
# Included records do not bear on the root

A report speaks of the record of a domain and of what that record refers to. `RootFindings` is the
part about the record itself. It comes from the answer to the first lookup and from nothing else:
the walk adds to a chain, but it leaves the root and the SPF records of the domain as they were read
from that answer (`Chain.root_of_resolve`), and of the issues, those that the walk bears on are of
other kinds (`Chain.filter_isOfRoot`). So two reports say the same of the root if their zones answer
the first lookup alike (`root_findings_independent`), however they answer others, and whatever was
allowed.
-/

namespace SenderPolicy

/-! ## What is said of the root -/

/-- Whether issues of a kind are about the record of a domain itself, or about the lack of it. -/
def IssueKind.isOfRoot : IssueKind → Bool
  | .missingRecord | .missingVersion | .syntaxError | .missingAll | .unknownModifier
  | .multipleRecords | .permissiveAll | .neutralAll | .redirectWithAll | .termsAfterAll
  | .ptrMechanism => true
  | _ => false

/-- What a report says about the record of a domain itself. -/
structure RootFindings where
  /-- The text of the record; empty if there is none. -/
  record : Text
  /-- Whether there is a record and it is well formed. -/
  isWellFormed : Bool
  /-- Whether other senders are marked. -/
  hasSoftFail : Bool
  /-- Whether other senders are rejected. -/
  hasHardFail : Bool
  /-- The issues about the record, in their order. -/
  issues : List Issue
  deriving DecidableEq, Repr

/-- The part of a report about the record of the domain itself. -/
def Report.rootFindings (r : Report) : RootFindings where
  record := r.record
  isWellFormed := r.isWellFormed
  hasSoftFail := r.hasSoftFail
  hasHardFail := r.hasHardFail
  issues := r.issues.filter fun i => i.kind.isOfRoot

/-! ## The issues about the root -/

namespace Chain

variable {c c' : Chain}

/-- The issues about the root are among those of the record, and those of several records. -/
theorem filter_isOfRoot (c : Chain) (limit : LookupLimit) (r : Record) :
    (c.recordIssues limit r).filter (fun i => i.kind.isOfRoot) =
      (r.formIssues ++ r.missingAllIssues ++ r.unknownModifierIssues ++ c.multipleIssues ++
        r.defaultIssues ++ r.redirectIssues ++ r.afterAllIssues ++ r.ptrIssues).filter
          fun i => i.kind.isOfRoot := by
  have hover : (c.overLimitIssues limit).filter (fun i => i.kind.isOfRoot) = [] :=
    filter_kind_eq_nil_of_mem_iff _ mem_kinds_issueIf rfl
  have hloop : c.loopIssues.filter (fun i => i.kind.isOfRoot) = [] :=
    filter_kind_eq_nil_of_mem_iff _ mem_kinds_loopIssues rfl
  have hnear : (c.nearLimitIssues limit).filter (fun i => i.kind.isOfRoot) = [] :=
    filter_kind_eq_nil_of_mem_iff _ mem_kinds_nearLimitIssues rfl
  have hfailure : c.failureIssues.filter (fun i => i.kind.isOfRoot) = [] := by
    refine filter_kind_eq_nil _ fun k hk hmem => ?_
    obtain ⟨-, rfl⟩ | ⟨-, rfl⟩ | ⟨-, rfl⟩ := mem_kinds_failureIssues.1 hmem <;> cases hk
  have htimeout : c.timeoutIssues.filter (fun i => i.kind.isOfRoot) = [] :=
    filter_kind_eq_nil_of_mem_iff _ mem_kinds_timeoutIssues rfl
  simp only [recordIssues, List.filter_append, hover, hloop, hnear, hfailure, htimeout,
    List.append_nil]

/-- Chains with the same root and the same SPF records of their domains have the same issues about
the root. -/
theorem filter_isOfRoot_congr (hroot : c.root = c'.root) (hrecords : c.spfRecords = c'.spfRecords)
    (limit limit' : LookupLimit) :
    (c.issues limit).filter (fun i => i.kind.isOfRoot) =
      (c'.issues limit').filter fun i => i.kind.isOfRoot := by
  unfold issues
  rw [← hroot]
  cases c.root with
  | none => rfl
  | some r =>
    have hmultiple : c.multipleIssues = c'.multipleIssues := by
      rw [multipleIssues, multipleIssues, hrecords]
    simp only [filter_isOfRoot, hmultiple]

/-- The reports on chains with the same root and the same SPF records of their domains say the same
of the root. -/
theorem rootFindings_congr (hroot : c.root = c'.root) (hrecords : c.spfRecords = c'.spfRecords)
    (limit limit' : LookupLimit) (moment moment' : Instant) :
    (c.report (c.issues limit) moment).rootFindings =
      (c'.report (c'.issues limit') moment').rootFindings := by
  simp only [Report.rootFindings, report, filter_isOfRoot_congr hroot hrecords limit limit', hroot]

end Chain

/-! ## The root of a chain -/

/-- The SPF records that an answer holds, in their order. -/
def Answer.spfRecords : Answer → List Text
  | .texts published => selectSpfRecords published
  | _ => []

/-- The record that is expanded for a domain, of the SPF records that it publishes. -/
def rootOf? (domain : Text) (records : List Text) : Option Record :=
  records.head?.bind fun raw => (Record.read raw domain).toOption

section Timing

variable {τ : Type} [Seconds τ] {z : Zone τ}

/-- The root of a chain and the SPF records of its domain are those of the answer to the lookup of
the domain. -/
theorem Chain.root_of_resolve {l : Limits τ} {now : τ} {domain : Text} {c : Chain}
    (h : (resolve z l now domain).outcome = .ok c) :
    c.spfRecords = (z.answer (normalizeDomain domain)).spfRecords ∧
      c.root = rootOf? (normalizeDomain domain) c.spfRecords := by
  rw [resolve_outcome] at h
  cases ha : z.answer (normalizeDomain domain) with
  | texts texts =>
    rw [ha] at h
    cases hs : selectSpfRecords texts with
    | nil =>
      simp only [ofAnswer, ofTexts, hs, Except.ok.injEq] at h
      subst h
      exact ⟨hs.symm, rfl⟩
    | cons raw others =>
      -- The chain is that of a walk, which leads on from the root.
      rw [ofAnswer, (ofTexts_of_select z l _ _ _ hs).1] at h
      obtain ⟨root, hread, -, rfl⟩ := evaluate_outcome_iff.1 h
      refine ⟨hs.symm, ?_⟩
      simp [Walk.chain, rootOf?, hread, Except.toOption]
  | broken m => simp [ha, ofAnswer] at h
  | _ =>
    simp only [ha, ofAnswer, unfetched, Except.ok.injEq] at h
    subst h
    exact ⟨rfl, rfl⟩

end Timing

/-- Two reports on a domain say the same of its own record if the lookup of the domain is answered
alike. The zones may differ in all other answers and in the time that any answer takes, and the
assessors in everything that they allow. -/
theorem root_findings_independent {τ τ' : Type} [Seconds τ] [Seconds τ'] (a : Assessor τ)
    (a' : Assessor τ') (z : Zone τ) (z' : Zone τ') (now : τ) (now' : τ') (moment moment' : Instant)
    (domain : Text) (r r' : Report)
    (hanswer : z.answer (normalizeDomain domain) = z'.answer (normalizeDomain domain))
    (hr : (a.assess z now moment domain).outcome = .ok r)
    (hr' : (a'.assess z' now' moment' domain).outcome = .ok r') :
    r.rootFindings = r'.rootFindings := by
  obtain ⟨v, hv⟩ := Assessor.exists_validate_of_assess hr
  obtain ⟨v', hv'⟩ := Assessor.exists_validate_of_assess hr'
  rw [hv] at hr
  rw [hv'] at hr'
  obtain ⟨c, hc, rfl⟩ := Traced.report_outcome_iff.1 hr
  obtain ⟨c', hc', rfl⟩ := Traced.report_outcome_iff.1 hr'
  obtain ⟨hrecords, hroot⟩ := Chain.root_of_resolve hc
  obtain ⟨hrecords', hroot'⟩ := Chain.root_of_resolve hc'
  have hsame : c.spfRecords = c'.spfRecords := by rw [hrecords, hrecords', hanswer]
  refine Chain.rootFindings_congr ?_ hsame _ _ _ _
  rw [hroot, hroot', hsame]

/-- A zone in which a record refers to another one, which is answered by `answer` after `delay`
seconds. -/
def referringZone (answer : Answer) (delay : Rat) : Zone Rat where
  answer domain :=
    if domain = ("a" : Text) then .texts ["v=spf1 include:b ~all ptr", "v=spf1 -all"]
    else answer
  delay domain := if domain = ("a" : Text) then 0 else delay

/-- The record that is referred to is well formed in one zone. In the other zone its lookup fails,
and no more than that lookup is allowed. The issues that are reported differ, but nothing that is
said of the root does. -/
theorem referringZone_root :
    ∃ r r', ((Validator.ofLimits ⟨(10 : Int), 5⟩).validate
        (referringZone (.texts ["v=spf1 mx -all"]) 0) 0 ⟨2024, 1, 1, 0, 0, 0, 0⟩
        ("a" : Text)).outcome = .ok r ∧
      ((Validator.ofLimits ⟨(1 : Int), 4⟩).validate (referringZone (.failed "refused") 3) 7
        ⟨2025, 1, 1, 0, 0, 0, 0⟩ ("a" : Text)).outcome = .ok r' ∧
      r.issues.map Issue.kind = [.multipleRecords, .termsAfterAll, .ptrMechanism] ∧
      r'.issues.map Issue.kind =
        [.tooManyLookups, .multipleRecords, .termsAfterAll, .ptrMechanism, .lookupFailed] ∧
      r.rootFindings = r'.rootFindings := by
  obtain ⟨r, hr, hkinds⟩ : ∃ r, ((Validator.ofLimits ⟨(10 : Int), 5⟩).validate
      (referringZone (.texts ["v=spf1 mx -all"]) 0) 0 ⟨2024, 1, 1, 0, 0, 0, 0⟩
      ("a" : Text)).outcome = .ok r ∧
        r.issues.map Issue.kind = [.multipleRecords, .termsAfterAll, .ptrMechanism] :=
    exists_ok_of_map_toOption (fun r : Report => r.issues.map Issue.kind) (by decide +kernel)
  obtain ⟨r', hr', hkinds'⟩ : ∃ r', ((Validator.ofLimits ⟨(1 : Int), 4⟩).validate
      (referringZone (.failed "refused") 3) 7 ⟨2025, 1, 1, 0, 0, 0, 0⟩ ("a" : Text)).outcome =
        .ok r' ∧ r'.issues.map Issue.kind =
          [.tooManyLookups, .multipleRecords, .termsAfterAll, .ptrMechanism, .lookupFailed] :=
    exists_ok_of_map_toOption (fun r : Report => r.issues.map Issue.kind) (by decide +kernel)
  have hanswer : (referringZone (.texts ["v=spf1 mx -all"]) 0).answer (normalizeDomain "a") =
      (referringZone (.failed "refused") 3).answer (normalizeDomain "a") := by
    decide +kernel
  exact ⟨r, r', hr, hr', hkinds, hkinds', root_findings_independent (.ofLimits ⟨(10 : Int), 5⟩)
    (.ofLimits ⟨(1 : Int), 4⟩) _ _ 0 7 _ _ ("a" : Text) r r' hanswer hr hr'⟩

end SenderPolicy
