import SenderPolicy.Proofs.Chain.Totality
import SenderPolicy.Proofs.Issue.Raised
import SenderPolicy.Report

/-!
# Reports that are returned

A report is returned whenever a chain is. `report_returned_iff` puts together what this takes: the
answers to all lookups that are made must be readable, and so must a record that is given. What is
not readable comes down to a single kind of token, those with an oversized CIDR length. All other
tokens that are not terms, and all failures that a chain holds, end up in the report.
-/

namespace SenderPolicy

/-- Every failure of a chain has an issue of its kind. -/
theorem Chain.exists_issue_of_mem_failures {c : Chain} {limit : LookupLimit} {root : Record}
    (hroot : c.root = some root) {f : Failure} (hf : f ∈ c.failures) :
    ∃ i ∈ c.issues limit, i.kind = f.kind.issueKind := by
  have hissues : c.issues limit = c.recordIssues limit root := by simp [issues, hroot]
  rw [hissues, exists_issue_iff]
  cases hk : f.kind <;> exact ⟨f, hf, hk⟩

section Timing

variable {τ : Type} [Seconds τ]

omit [Seconds τ] in
/-- A report is returned if a chain is. -/
theorem Traced.exists_report_iff {t : Traced τ Chain} {limit : LookupLimit} {moment : Instant} :
    (∃ r, (t.report limit moment).outcome = .ok r) ↔ ∃ c, t.outcome = .ok c := by
  simp only [report_outcome_iff]
  constructor
  · rintro ⟨r, c, hc, -⟩
    exact ⟨c, hc⟩
  · rintro ⟨c, hc⟩
    exact ⟨_, c, hc, rfl⟩

/-- Reports on a domain are returned if and only if the answers to all lookups that are made are
readable, and reports on a record that is given if it can be read as well. A token of such a record
is read as a term or found malformed if and only if it is not oversized. The malformed tokens of a
record that can be read leave no term, and the record is not well formed then. Every failure of a
chain with a root becomes an issue of its kind. -/
theorem report_returned_iff (v : Validator τ) (z : Zone τ) (now : τ) (moment : Instant)
    (domain raw : Text) :
    ((∃ r, (v.validate z now moment domain).outcome = .ok r) ↔
      ∀ q ∈ (v.validate z now moment domain).queries, (z.answer q.domain).Readable) ∧
    ((∃ r, (v.validateRecord z now moment domain raw).outcome = .ok r) ↔
      Record.Readable raw ∧
        ∀ q ∈ (v.validateRecord z now moment domain raw).queries,
          (z.answer q.domain).Readable) ∧
    (∀ token ∈ Record.tokens raw,
      ((∃ t, Term.read token = .ok t) ∨ ∃ m, Term.read token = .error (.malformed m)) ↔
        ¬ Term.IsOversized token) ∧
    (∀ record, isSpfRecord raw = true → Record.read raw domain = .ok record →
      record.terms = .version ::
          (Record.tokens raw).filterMap (fun token => (Term.read token).toOption) ∧
        ∀ token ∈ Record.tokens raw, ∀ m, Term.read token = .error (.malformed m) →
          record.isWellFormed = false) ∧
    ∀ (c : Chain) (root : Record), c.root = some root → ∀ f ∈ c.failures,
      ∃ i ∈ c.issues v.limit, i.kind = f.kind.issueKind := by
  refine ⟨?_, ?_, fun token ht => ?_, fun record hraw hread => ⟨?_, fun token ht m hm => ?_⟩,
    fun c root hroot f hf => ?_⟩
  · rw [Validator.validate, Traced.exists_report_iff, Traced.queries_report]
    exact Chain.exists_resolve_iff
  · rw [Validator.validateRecord, Traced.exists_report_iff, Traced.queries_report]
    exact Chain.exists_preview_iff
  · exact read_ok_or_malformed_iff (Text.ne_nil_of_mem_words ht)
  · exact Record.terms_of_read hraw hread
  · exact Record.isWellFormed_of_malformed hraw hread ht hm
  · exact Chain.exists_issue_of_mem_failures hroot hf

end Timing

/-- A zone in which every domain publishes a record with a CIDR length of 4301 digits. -/
def oversizedZone : Zone Rat where
  answer _ := .texts [("v=spf1 a/" : Text) ++ List.replicate 4301 (.char '1') ++ (" -all" : Text)]
  delay _ := 0

/-- The source of the zone does not fail, and yet no report is returned on a domain in it. -/
theorem oversizedZone_not_returned :
    (∀ domain m, oversizedZone.answer domain ≠ .broken m) ∧
      ¬ ∃ r, (Validator.validate ⟨⟨(10 : Int), 5⟩, (10 : Int)⟩ oversizedZone 0
        ⟨2024, 1, 1, 0, 0, 0, 0⟩ ("example.com" : Text)).outcome = .ok r := by
  refine ⟨fun domain m => Answer.noConfusion, ?_⟩
  rintro ⟨r, hr⟩
  have hnone : (Validator.validate ⟨⟨(10 : Int), 5⟩, (10 : Int)⟩ oversizedZone 0
      ⟨2024, 1, 1, 0, 0, 0, 0⟩ ("example.com" : Text)).outcome.toOption = none := by decide +kernel
  rw [hr] at hnone
  cases hnone

end SenderPolicy
