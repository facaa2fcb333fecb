import SenderPolicy.Chain.Resolution
import SenderPolicy.Instant
import SenderPolicy.Issue.Detection
import SenderPolicy.Json.Basic

/-!
# Reports

A report says whether a domain's record can be used, what is wrong with it and what to do about
it. `validate` reports on the record that a domain publishes, `validateRecord` on a record that is
given for the domain. A record is valid if it is well formed and has no issue of severity error.
A report that is written keeps all that it shows (`Report.toJson_eq_iff`).
-/

namespace SenderPolicy

/-- The advice that every report gives. -/
def generalAdvice : List Text :=
  ["Implement DKIM signing and publish a DMARC policy alongside SPF to fully protect your " ++
     "domain against spoofing.",
   "Monitor email deliverability and DMARC aggregate reports to catch authentication failures " ++
     "early.",
   "Test SPF changes in a staging environment or on a subdomain before applying them to " ++
     "production."]

/-- What is reported about a domain. -/
structure Report where
  /-- The domain. -/
  domain : Text
  /-- Whether the record can be used. -/
  isValid : Bool
  /-- The text of the record; empty if there is none. -/
  record : Text
  /-- The lookups that the record is charged. -/
  lookups : Int
  /-- Whether there is a record and it is well formed. -/
  isWellFormed : Bool
  /-- Whether other senders are marked. -/
  hasSoftFail : Bool
  /-- Whether other senders are rejected. -/
  hasHardFail : Bool
  /-- What is wrong. -/
  issues : List Issue
  /-- General advice. -/
  advice : List Text
  /-- When the report was made. -/
  moment : Instant
  deriving DecidableEq, Repr

/-- The report on a chain and its issues. -/
def Chain.report (c : Chain) (issues : List Issue) (moment : Instant) : Report :=
  let wellFormed := c.root.any Record.isWellFormed
  let default := c.root.bind Record.default?
  { domain := c.domain
    isValid := wellFormed && !issues.any Issue.isError
    record := (c.root.map Record.raw).getD []
    lookups := c.lookups
    isWellFormed := wellFormed
    hasSoftFail := default = some .softFail
    hasHardFail := default = some .fail
    issues := issues
    advice := generalAdvice
    moment := moment }

/-- The notice of a complete report. -/
def Report.notice {τ : Type} (r : Report) : Notice τ :=
  .reported r.domain r.isValid r.lookups r.issues.length

/-- The report on a resolved domain, with `limit` lookups allowed to a record. -/
def Traced.report {τ : Type} (t : Traced τ Chain) (limit : LookupLimit) (moment : Instant) :
    Traced τ Report :=
  match t.outcome with
  | .error a => ⟨.error a, t.queries, t.notices⟩
  | .ok c =>
    let r := c.report (c.issues limit) moment
    ⟨.ok r, t.queries, t.notices ++ [r.notice]⟩

/-- A report is returned for a chain that is returned, and for no other. -/
theorem Traced.report_outcome_iff {τ : Type} {t : Traced τ Chain} {limit : LookupLimit}
    {moment : Instant} {r : Report} : (t.report limit moment).outcome = .ok r ↔
      ∃ c, t.outcome = .ok c ∧ c.report (c.issues limit) moment = r := by
  unfold report
  cases t.outcome <;> simp

/-- Reporting makes no lookups. -/
theorem Traced.queries_report {τ : Type} (t : Traced τ Chain) (limit : LookupLimit)
    (moment : Instant) : (t.report limit moment).queries = t.queries := by
  unfold report
  cases t.outcome <;> rfl

/-- How reports are made: what the evaluation of a chain is allowed, and the lookups that are
allowed to a record. -/
structure Validator (τ : Type) where
  /-- What the evaluation of a chain is allowed. -/
  chain : Limits τ
  /-- The lookups that a record may be charged. -/
  limit : LookupLimit

/-- A validator that allows a record as many lookups as it makes. -/
def Validator.ofLimits {τ : Type} (l : Limits τ) : Validator τ := ⟨l, l.lookups⟩

namespace Validator

variable {τ : Type} [Seconds τ] (v : Validator τ) (z : Zone τ) (now : τ) (moment : Instant)

/-- Reports on the record that a domain publishes. -/
def validate (domain : Text) : Traced τ Report :=
  (Chain.resolve z v.chain now domain).report v.limit moment

/-- Reports on a record that is given for a domain. -/
def validateRecord (domain raw : Text) : Traced τ Report :=
  (Chain.preview z v.chain now domain raw).report v.limit moment

end Validator

/-- An issue as it is written. -/
def Issue.toJson (i : Issue) : Json :=
  .object
    [("type", .string i.kind.severity.word),
     ("message", .string i.message),
     ("description", .string i.kind.description),
     ("recommendation", .string i.kind.recommendation),
     ("severity", .integer i.kind.severity.rank)]

/-- What is shown of an issue: its kind, and its title with the detail. -/
def Issue.shown (i : Issue) : IssueKind × Text := (i.kind, i.message)

/-- Issues are written alike if and only if the same is shown of them. -/
theorem Issue.toJson_eq_iff {i j : Issue} : i.toJson = j.toJson ↔ i.shown = j.shown := by
  constructor
  · intro h
    simp only [toJson, Json.object.injEq, List.cons.injEq, Prod.mk.injEq, Json.string.injEq,
      Text.ofString_inj, IssueKind.recommendation_inj, true_and] at h
    obtain ⟨-, hmessage, -, hkind, -⟩ := h
    exact Prod.ext hkind hmessage
  · intro h
    obtain ⟨hkind, hmessage⟩ := Prod.mk.inj h
    simp only [toJson, hkind, hmessage]

/-- Lists of issues are written alike if and only if the same is shown of them. -/
theorem Issue.map_toJson_eq_iff {xs ys : List Issue} :
    xs.map toJson = ys.map toJson ↔ xs.map shown = ys.map shown := by
  induction xs generalizing ys with
  | nil => cases ys <;> simp
  | cons i xs ih => cases ys <;> simp [toJson_eq_iff, ih]

/-- A report as it is written. -/
def Report.toJson (r : Report) : Json :=
  .object
    [("domain", .string r.domain),
     ("is_valid", .bool r.isValid),
     ("spf_record", .string r.record),
     ("dns_lookups", .integer r.lookups),
     ("syntax_valid", .bool r.isWellFormed),
     ("has_soft_fail", .bool r.hasSoftFail),
     ("has_hard_fail", .bool r.hasHardFail),
     ("issues", .array (r.issues.map Issue.toJson)),
     ("recommendations", .array (r.advice.map .string)),
     ("timestamp", .string r.moment.render)]

/-- Reports are written alike if and only if they agree in every field that is shown: in all of them
but the issues, and in the issues up to details that no title tells. -/
theorem Report.toJson_eq_iff {r r' : Report} : r.toJson = r'.toJson ↔
    { r with issues := r'.issues } = r' ∧
      r.issues.map Issue.shown = r'.issues.map Issue.shown := by
  cases r
  cases r'
  simp only [toJson, Json.object.injEq, List.cons.injEq, Prod.mk.injEq, Json.string.injEq,
    Json.bool.injEq, Json.integer.injEq, Json.array.injEq, Text.ofString_inj, Instant.render_inj,
    Issue.map_toJson_eq_iff, List.map_inj_right fun _ _ => Json.string.inj, Report.mk.injEq,
    true_and, and_true]
  -- Only the place of the issues among the fields differs.
  grind

end SenderPolicy
