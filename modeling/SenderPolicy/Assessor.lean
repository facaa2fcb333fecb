import SenderPolicy.Report

/-!
# Assessments

An assessor makes reports under settings that may be of no use. It needs the allowed time at the
start of an evaluation, the allowed number of lookups where a term is charged, and the number that
a record may be charged where a record is judged; a domain without a record is reported on without
it. Under settings that are of use it is a validator (`assess_ofLimits`, `assessRecord_ofLimits`),
and under any settings a report that is returned is one that a validator makes
(`exists_validate_of_assess`).
-/

namespace SenderPolicy

/-- The settings of an evaluation, or what is wrong with them. -/
structure Assessor (τ : Type) where
  /-- The number of lookups that the terms may be charged. -/
  budget : Except SettingFault LookupLimit
  /-- The seconds from the start after which no lookup is begun. -/
  seconds : Except SettingFault τ
  /-- The number of lookups that a record may be charged. -/
  limit : Except SettingFault LookupLimit

/-- The assessor whose settings are of use. -/
def Assessor.ofLimits {τ : Type} (l : Limits τ) : Assessor τ :=
  ⟨.ok l.lookups, .ok l.seconds, .ok l.lookups⟩

section Timing

variable {τ : Type} [Seconds τ]

/-- A resolved domain whose terms cannot be charged: it is aborted if one of them was. -/
def Traced.uncharged (t : Traced τ Chain) (f : SettingFault) : Traced τ Chain :=
  match t.outcome with
  | .error _ => t
  | .ok c => if c.limitExceeded then ⟨.error (.setting f), t.queries, []⟩ else t

omit [Seconds τ] in
/-- A chain that is found without a charge is the one that was resolved. -/
theorem Traced.uncharged_eq {t : Traced τ Chain} {f : SettingFault} {c : Chain}
    (h : (t.uncharged f).outcome = .ok c) : t.uncharged f = t := by
  unfold uncharged at h ⊢
  split
  · rfl
  · rename_i c' hc
    simp only [hc] at h
    split
    · rename_i hcharged
      rw [if_pos hcharged] at h
      cases h
    · rfl

/-- The report on a resolved domain without a number of lookups that its record may be charged. The
number is asked for where there is a record and its walk ended within the budget. -/
def Traced.unjudged (t : Traced τ Chain) (f : SettingFault) (moment : Instant) : Traced τ Report :=
  match t.outcome with
  | .error a => ⟨.error a, t.queries, t.notices⟩
  | .ok c =>
    if c.root.isSome && !c.limitExceeded then ⟨.error (.setting f), t.queries, t.notices⟩
    else t.report (0 : Int) moment

omit [Seconds τ] in
/-- A report that is returned without a number of lookups is returned for the number zero. -/
theorem Traced.unjudged_eq {t : Traced τ Chain} {f : SettingFault} {moment : Instant} {r : Report}
    (h : (t.unjudged f moment).outcome = .ok r) :
    t.unjudged f moment = t.report (0 : Int) moment := by
  unfold unjudged at h ⊢
  split
  · rename_i e he
    simp only [he] at h
    cases h
  · rename_i c hc
    simp only [hc] at h
    split
    · rename_i hjudged
      rw [if_pos hjudged] at h
      cases h
    · rfl

namespace Assessor

variable (a : Assessor τ) (z : Zone τ) (now : τ) (moment : Instant)

/-- What an evaluation finds that is allowed what the settings say. -/
def explore (evaluate : Limits τ → Traced τ Chain) : Traced τ Chain :=
  match a.seconds, a.budget with
  | .error f, _ => ⟨.error (.setting f), [], []⟩
  | .ok s, .ok l => evaluate ⟨l, s⟩
  | .ok s, .error f => (evaluate ⟨(0 : Int), s⟩).uncharged f

/-- Resolves the record that a domain publishes. -/
def resolve (domain : Text) : Traced τ Chain := a.explore fun l => Chain.resolve z l now domain

/-- Resolves a record that is given for a domain. -/
def preview (domain raw : Text) : Traced τ Chain :=
  a.explore fun l => Chain.preview z l now domain raw

/-- The report on a resolved domain. -/
def judge (t : Traced τ Chain) : Traced τ Report :=
  match a.limit with
  | .ok l => t.report l moment
  | .error f => t.unjudged f moment

/-- Reports on the record that a domain publishes. -/
def assess (domain : Text) : Traced τ Report := a.judge moment (a.resolve z now domain)

/-- Reports on a record that is given for a domain. -/
def assessRecord (domain raw : Text) : Traced τ Report :=
  a.judge moment (a.preview z now domain raw)

variable (l : Limits τ)

/-- Under settings that are of use, a published record is reported on by a validator. -/
theorem assess_ofLimits (domain : Text) :
    (ofLimits l).assess z now moment domain =
      (Validator.ofLimits l).validate z now moment domain := rfl

/-- Under settings that are of use, a given record is reported on by a validator. -/
theorem assessRecord_ofLimits (domain raw : Text) :
    (ofLimits l).assessRecord z now moment domain raw =
      (Validator.ofLimits l).validateRecord z now moment domain raw := rfl

variable {a z now moment}

omit [Seconds τ] in
/-- A chain that is found under some settings is found within some limits. -/
theorem exists_limits_of_explore {evaluate : Limits τ → Traced τ Chain} {c : Chain}
    (h : (a.explore evaluate).outcome = .ok c) : ∃ l, a.explore evaluate = evaluate l := by
  unfold explore at h ⊢
  split at h
  · cases h
  · exact ⟨_, rfl⟩
  · exact ⟨_, Traced.uncharged_eq h⟩

omit [Seconds τ] in
/-- A report that is returned under some settings is returned for some number of lookups. -/
theorem exists_limit_of_judge {t : Traced τ Chain} {r : Report}
    (h : (a.judge moment t).outcome = .ok r) :
    ∃ limit, a.judge moment t = t.report limit moment := by
  unfold judge at h ⊢
  split at h
  · exact ⟨_, rfl⟩
  · exact ⟨_, Traced.unjudged_eq h⟩

/-- A report that is returned under some settings is one that a validator makes. -/
theorem exists_validate_of_assess {domain : Text} {r : Report}
    (h : (a.assess z now moment domain).outcome = .ok r) :
    ∃ v : Validator τ, a.assess z now moment domain = v.validate z now moment domain := by
  obtain ⟨limit, hjudge⟩ := exists_limit_of_judge h
  have hreport : ((a.resolve z now domain).report limit moment).outcome = .ok r := by
    rw [← hjudge]
    exact h
  obtain ⟨c, hc, -⟩ := Traced.report_outcome_iff.1 hreport
  obtain ⟨l, hl⟩ := exists_limits_of_explore hc
  refine ⟨⟨l, limit⟩, ?_⟩
  rw [assess, hjudge]
  exact congrArg (fun t => t.report limit moment) hl

end Assessor

end Timing

end SenderPolicy
