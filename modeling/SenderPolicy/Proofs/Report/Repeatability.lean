import SenderPolicy.Assessor
import SenderPolicy.Proofs.Chain.Punctuality
import SenderPolicy.Proofs.Report.Preview

/-!
# Reports do not depend on when they are made

A validator may answer many inquiries, one after another, on a clock that goes on all the time. An
evaluation asks the clock only for the seconds that remain until its own deadline, and on an exact
clock these are the same whenever the evaluation begins (`InStep.of_sub_eq`). So the chain that is
found is the same at every time, with the same lookups, timeouts and notices
(`Chain.resolve_eq_of_start`, `Chain.preview_eq_of_start`).

`runs_repeatable` carries this over to the runs of a validator: every report is the one that a new
validator would have made at any other time, up to the moment that is written on it.
-/

namespace SenderPolicy

/-! ## Inquiries -/

/-- What a validator is asked to report on. -/
inductive Inquiry
  /-- The record that a domain publishes. -/
  | published (domain : Text)
  /-- A record that is given for a domain. -/
  | given (domain raw : Text)
  deriving DecidableEq, Repr

/-- One call of a validator. -/
structure Call (τ : Type) where
  /-- The seconds that have passed since the call before it. -/
  idle : τ
  /-- The moment that is written on the report. -/
  moment : Instant
  /-- What is asked. -/
  inquiry : Inquiry

/-- A result with another moment written on the report. -/
def Traced.dated {τ : Type} (t : Traced τ Report) (moment : Instant) : Traced τ Report :=
  { t with outcome := t.outcome.map fun r => { r with moment := moment } }

/-- Of the report on a chain, only the moment depends on when it is made. -/
theorem Traced.dated_report {τ : Type} (t : Traced τ Chain) (limit : LookupLimit)
    (moment moment' : Instant) :
    (t.report limit moment).dated moment' = t.report limit moment' := by
  unfold report dated
  cases t.outcome <;> rfl

section Timing

variable {τ : Type} [Seconds τ]

namespace Validator

/-- The report that an inquiry is answered with at the time `now`. -/
def answer (v : Validator τ) (z : Zone τ) (now : τ) (moment : Instant) :
    Inquiry → Traced τ Report
  | .published domain => v.validate z now moment domain
  | .given domain raw => v.validateRecord z now moment domain raw

/-- What the calls of one validator are answered with, one after another, on a clock that tells the
time `now` at the outset. The lookups of a call take their time on the same clock. -/
def session (v : Validator τ) (z : Zone τ) : (now : τ) → List (Call τ) → List (Traced τ Report)
  | _, [] => []
  | now, c :: calls =>
    let t := v.answer z (now + c.idle) c.moment c.inquiry
    t :: v.session z (z.after (now + c.idle) t.queries) calls

end Validator

/-! ## Evaluations begun at other times -/

/-- The expansion of a record is the same at times that are in step. -/
theorem Chain.evaluate_of_inStep {z : Zone τ} {deadline deadline' now now' : τ}
    (h : InStep z deadline now deadline' now') (l : Limits τ) (domain raw : Text)
    (records : List Text) :
    evaluate z l deadline' now' domain records raw =
      evaluate z l deadline now domain records raw := by
  unfold evaluate
  cases Record.read raw domain with
  | error a => rfl
  | ok root =>
    have hsame : z.AgreeOff domain z := ⟨fun _ _ => rfl, fun _ _ => rfl⟩
    simp only [walk_of_agreeOff hsame now' (rootedAt_singleton domain root.terms) h]

/-- What the answer to the lookup of a domain's own TXT records leads to is the same at times that
are in step. -/
theorem Chain.ofAnswer_of_inStep {z : Zone τ} {deadline deadline' now now' : τ}
    (h : InStep z deadline now deadline' now') (l : Limits τ) (domain : Text) (a : Answer) :
    ofAnswer z l deadline' now' domain a = ofAnswer z l deadline now domain a := by
  cases a with
  | texts texts => simp only [ofAnswer, ofTexts, evaluate_of_inStep h]
  | _ => rfl

/-- A domain is resolved alike at times that are in step. -/
theorem Chain.resolve_of_inStep {z : Zone τ} {l : Limits τ} {now now' : τ}
    (h : InStep z (now + l.seconds) now (now' + l.seconds) now') (domain : Text) :
    resolve z l now' domain = resolve z l now domain := by
  have hfirst : remaining (now' + l.seconds) now' = remaining (now + l.seconds) now :=
    h.remaining_eq
  have hlater : InStep z (now + l.seconds) (now + z.delay (normalizeDomain domain))
      (now' + l.seconds) (now' + z.delay (normalizeDomain domain)) :=
    h.after [⟨normalizeDomain domain, remaining (now + l.seconds) now⟩]
  simp only [resolve, hfirst, ofAnswer_of_inStep hlater]

/-! ## Assessments made at other times -/

end Timing

variable (z : Zone Rat)

/-- On an exact clock a domain is resolved alike at all times. -/
theorem Chain.resolve_eq_of_start (l : Limits Rat) (now now' : Rat) (domain : Text) :
    resolve z l now' domain = resolve z l now domain :=
  resolve_of_inStep (.of_sub_eq (by linarith)) domain

/-- On an exact clock a record is previewed alike at all times. -/
theorem Chain.preview_eq_of_start (l : Limits Rat) (now now' : Rat) (domain raw : Text) :
    preview z l now' domain raw = preview z l now domain raw :=
  evaluate_of_inStep (.of_sub_eq (by linarith)) l _ raw _

/-- On an exact clock an inquiry is answered alike at all times, up to the moment of the report. -/
theorem Validator.dated_answer (v : Validator Rat) (now now' : Rat) (moment moment' : Instant)
    (inquiry : Inquiry) :
    (v.answer z now moment inquiry).dated moment' = v.answer z now' moment' inquiry := by
  cases inquiry with
  | published domain =>
    rw [answer, validate, Traced.dated_report, Chain.resolve_eq_of_start z v.chain now' now]
    rfl
  | given domain raw =>
    rw [answer, validateRecord, Traced.dated_report, Chain.preview_eq_of_start z v.chain now' now]
    rfl

/-- Every call of a session is answered as it would be at any other time. -/
theorem Validator.forall₂_session (v : Validator Rat) (now : Rat) (calls : List (Call Rat)) :
    List.Forall₂ (fun c t => ∀ now' moment', t.dated moment' = v.answer z now' moment' c.inquiry)
      calls (v.session z now calls) := by
  induction calls generalizing now with
  | nil => exact .nil
  | cons c calls ih =>
    exact .cons (fun now' moment' => v.dated_answer z _ now' c.moment moment' c.inquiry) (ih _)

/-- Every call of a session gets its answer. -/
theorem Validator.exists_getElem?_session (v : Validator Rat) (now : Rat) {calls : List (Call Rat)}
    {i : Nat} {c : Call Rat} (h : calls[i]? = some c) :
    ∃ t, (v.session z now calls)[i]? = some t ∧
      ∀ now' moment', t.dated moment' = v.answer z now' moment' c.inquiry := by
  obtain ⟨hlength, hanswer⟩ := List.forall₂_iff_get.1 (v.forall₂_session z now calls)
  obtain ⟨hi, rfl⟩ := List.getElem?_eq_some_iff.1 h
  exact ⟨_, List.getElem?_eq_getElem (hlength ▸ hi), hanswer i hi (hlength ▸ hi)⟩

/-- Runs are repeatable. On an exact clock, every call of a session is answered as a new validator
would answer it at any other time, with the same report but for its moment, the same lookups with
the same timeouts and the same notices. So equal inquiries of one session are answered alike,
whatever is asked between them and however late they come. -/
theorem runs_repeatable (v : Validator Rat) (now : Rat) (calls : List (Call Rat)) :
    List.Forall₂ (fun c t => ∀ now' moment', t.dated moment' = v.answer z now' moment' c.inquiry)
        calls (v.session z now calls) ∧
      ∀ (i j : Nat) (c c' : Call Rat), calls[i]? = some c → calls[j]? = some c' →
        c.inquiry = c'.inquiry →
          ∃ t t', (v.session z now calls)[i]? = some t ∧ (v.session z now calls)[j]? = some t' ∧
            ∀ moment, t.dated moment = t'.dated moment := by
  refine ⟨v.forall₂_session z now calls, fun i j c c' hi hj hsame => ?_⟩
  obtain ⟨t, ht, hanswer⟩ := v.exists_getElem?_session z now hi
  obtain ⟨t', ht', hanswer'⟩ := v.exists_getElem?_session z now hj
  refine ⟨t, t', ht, ht', fun moment => ?_⟩
  rw [hanswer now moment, hanswer' now moment, hsame]

/-- A session in which the same domain is asked for at the beginning and at the end. -/
def silentCalls : List (Call Rat) :=
  [⟨0, ⟨2024, 2, 29, 23, 59, 59, 0⟩, .published "a"⟩,
    ⟨5 / 2, ⟨2024, 3, 1, 0, 0, 4, 0⟩, .given "b" "v=spf1 include:a"⟩,
    ⟨100, ⟨2024, 3, 1, 0, 1, 46, 500000⟩, .published "a"⟩]

/-- Both times the domain is reported on alike. -/
theorem silentCalls_repeatable :
    ∃ t t', ((Validator.ofLimits ⟨(10 : Int), 3⟩).session silentZone 0 silentCalls)[0]? = some t ∧
      ((Validator.ofLimits ⟨(10 : Int), 3⟩).session silentZone 0 silentCalls)[2]? = some t' ∧
      ∀ moment, t.dated moment = t'.dated moment :=
  (runs_repeatable silentZone (Validator.ofLimits ⟨(10 : Int), 3⟩) 0 silentCalls).2 0 2 _ _
    rfl rfl rfl

end SenderPolicy
