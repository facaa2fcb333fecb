import Mathlib.Tactic.Linarith
import SenderPolicy.Proofs.Chain.Loops

/-!
# Keeping to a deadline

On an exact clock every lookup of a walk begins before the deadline and is allowed just the time
that is left (`keepsTo_walk`). So if no lookup takes longer than it is allowed, the last of them is
answered by the deadline (`KeepsTo.after_le`). A term ends the walk for want of time if its domain
would be looked up at the deadline or later, or if the answer did not come in time and the deadline
has passed by then (`Due.IsOverdue`). Such a term is the last that is evaluated, and nothing is
found at it. An answer that does not come in time before the deadline is a failed lookup like
others.

`evaluations` holds the terms that a walk comes to within its budget. The time at which one of them
is evaluated is that of the lookups of the terms before it. `deadline_kept` puts all this together
for the domains that are resolved and the records that are previewed. It needs the exact clock: the
last section shows what rounding does to the seconds that a lookup is allowed and to the end of a
run.
-/

namespace SenderPolicy

/-! ## The terms that a walk comes to -/

section Timing

variable {τ : Type} [Seconds τ]

/-- The lookups that were made for evaluated terms. -/
def lookupsOf (log : List (Due × Attempt τ)) : List (Query τ) := log.filterMap fun p => p.2.query?

/-- The step that was taken at an evaluated term, unless the term ended the walk. -/
def Attempt.step? : Attempt τ → Option (Step τ)
  | .stepped s => some s
  | .halted _ => none

/-- The steps that were taken at evaluated terms. -/
def stepsOf (log : List (Due × Attempt τ)) : List (Step τ) := log.filterMap fun p => p.2.step?

variable {z : Zone τ} {deadline now : τ} {budget : Nat} {frames : List Frame}

/-- The steps of a walk are taken at the terms that it evaluates. -/
theorem stepsOf_evaluations : stepsOf (evaluations z deadline budget now frames) =
    (walk z deadline budget now frames).steps := by
  fun_induction walk z deadline budget now frames with
  | case1 | case2 => rfl
  | case3 budget now frames hd =>
    rw [evaluations, hd]
    rfl
  | case4 budget now frames d hd e he =>
    simp only [evaluations, hd, he]
    rfl
  | case5 budget now frames d hd s hs w ih =>
    simp only [evaluations, hd, hs]
    exact congrArg (s :: ·) ih

/-- A term is evaluated when the lookups of the terms before it are answered. The walk goes on after
it with the terms that it leaves, or ends at it. -/
theorem evaluations_eq_append {before after : List (Due × Attempt τ)} {d : Due} {a : Attempt τ}
    (h : evaluations z deadline budget now frames = before ++ (d, a) :: after) :
    attempt z deadline (z.after now (lookupsOf before)) d = a ∧
      (∀ s, a = .stepped s →
        after = evaluations z deadline (budget - (before.length + 1))
          (s.doneAt z (z.after now (lookupsOf before))) (s.opened ++ d.rest)) ∧
      ∀ e, a = .halted e → after = [] ∧ (walk z deadline budget now frames).ending = e := by
  induction before generalizing budget now frames with
  | nil =>
    cases budget with
    | zero => cases h
    | succ budget =>
      cases hd : Due.next? frames with
      | none =>
        rw [evaluations, hd] at h
        cases h
      | some d' =>
        cases ha : attempt z deadline now d' with
        | halted e =>
          simp only [evaluations, hd, ha] at h
          cases h
          refine ⟨ha, fun s hs => ?_, ?_⟩
          · cases hs
          · rintro e' ⟨⟩
            rw [walk_of_halted hd ha]
            exact ⟨rfl, rfl⟩
        | stepped s =>
          simp only [evaluations, hd, ha] at h
          cases h
          refine ⟨ha, ?_, fun e he => ?_⟩
          · rintro s' ⟨⟩
            rfl
          · cases he
  | cons p before ih =>
    cases budget with
    | zero => cases h
    | succ budget =>
      cases hd : Due.next? frames with
      | none =>
        rw [evaluations, hd] at h
        cases h
      | some d' =>
        cases ha : attempt z deadline now d' with
        | halted e =>
          simp only [evaluations, hd, ha, List.cons_append] at h
          obtain ⟨-, hnil⟩ := List.cons.inj h
          exact absurd hnil.symm (List.append_ne_nil_of_right_ne_nil _ (List.cons_ne_nil _ _))
        | stepped s =>
          simp only [evaluations, hd, ha, List.cons_append] at h
          obtain ⟨rfl, hrest⟩ := List.cons.inj h
          -- The clock stands where the lookup of the first term has left it.
          have hstart : z.after now (lookupsOf ((d', Attempt.stepped s) :: before)) =
              z.after (s.doneAt z now) (lookupsOf before) := by
            unfold lookupsOf Step.doneAt
            rw [List.filterMap_cons, ← Zone.after_append]
            simp only [Attempt.query?]
            cases s.query? <;> rfl
          rw [hstart, walk_of_stepped hd ha, List.length_cons, Nat.add_sub_add_right]
          exact ih hrest

end Timing

/-! ## Lookups that keep to a deadline -/

/-- Lookups one after another, the first of them at the time `now`, begin before the deadline, and
each of them is allowed just the time that is left. -/
def KeepsTo (z : Zone Rat) (deadline now : Rat) (lookups : List (Query Rat)) : Prop :=
  ∀ before q after, lookups = before ++ q :: after →
    z.after now before < deadline ∧ 0 < q.timeout ∧ q.timeout = deadline - z.after now before

variable {z : Zone Rat} {deadline now : Rat} {budget : Nat} {frames : List Frame}

/-- No lookups keep to every deadline. -/
theorem keepsTo_nil : KeepsTo z deadline now [] := by
  intro before q after h
  exact absurd h.symm (List.append_ne_nil_of_right_ne_nil _ (List.cons_ne_nil _ _))

/-- Lookups keep to a deadline if the first does and the others do, once it is answered. -/
theorem KeepsTo.cons {q : Query Rat} {qs : List (Query Rat)} (hnow : now < deadline)
    (hq : q.timeout = deadline - now) (hqs : KeepsTo z deadline (now + z.delay q.domain) qs) :
    KeepsTo z deadline now (q :: qs) := by
  intro before q' after h
  cases before with
  | nil =>
    obtain ⟨rfl, -⟩ := List.cons.inj h
    exact ⟨hnow, by rw [hq]; linarith, hq⟩
  | cons q'' before =>
    obtain ⟨rfl, hrest⟩ := List.cons.inj h
    exact hqs before q' after hrest

/-- If no lookup takes longer than it is allowed, all of them are answered by the deadline. -/
theorem KeepsTo.after_le {qs : List (Query Rat)} (h : KeepsTo z deadline now qs)
    (hdelay : ∀ q ∈ qs, z.delay q.domain ≤ q.timeout) (hnow : now ≤ deadline) :
    z.after now qs ≤ deadline := by
  induction qs generalizing now with
  | nil => exact hnow
  | cons q qs ih =>
    have htimeout : q.timeout = deadline - now := (h [] q qs rfl).2.2
    have hq := hdelay q List.mem_cons_self
    refine ih (fun before q' after hqs => ?_) (fun q' hq' => ?_) (by linarith)
    · exact h (q :: before) q' after (by rw [hqs]; rfl)
    · exact hdelay q' (List.mem_cons_of_mem _ hq')

/-- No exact time remains once the deadline has come. -/
theorem remaining_le_zero_iff {t : Rat} : remaining deadline t ≤ 0 ↔ deadline ≤ t := by
  rw [← not_lt, remaining_pos_iff, not_lt]

/-- A term is looked up before the deadline, with the time that is left. -/
theorem timeout_of_attempt_query? {d : Due} {q : Query Rat}
    (hq : (attempt z deadline now d).query? = some q) :
    now < deadline ∧ q.timeout = deadline - now := by
  obtain ⟨link, ht, hp⟩ := target?_of_attempt_query? rfl hq
  have hr : ¬ remaining deadline now ≤ 0 := by
    intro hr
    rw [attempt_of_target? ht, if_neg hp, if_pos hr] at hq
    cases hq
  have hnow : now < deadline := not_le.1 (mt remaining_le_zero_iff.2 hr)
  rw [query?_attempt ht hp hr] at hq
  have htimeout : remaining deadline now = q.timeout := congrArg Query.timeout (Option.some.inj hq)
  exact ⟨hnow, htimeout.symm.trans (remaining_of_lt hnow)⟩

/-- The lookups of a walk keep to its deadline. -/
theorem keepsTo_walk : KeepsTo z deadline now (walk z deadline budget now frames).queries := by
  fun_induction walk z deadline budget now frames with
  | case1 | case2 | case3 => exact keepsTo_nil
  | case4 budget now frames d hd e he =>
    cases hq : e.query? with
    | none =>
      simp only [Walk.queries, hq]
      exact keepsTo_nil
    | some q =>
      have hq' : (attempt z deadline now d).query? = some q := by rw [he]; exact hq
      obtain ⟨hnow, htimeout⟩ := timeout_of_attempt_query? hq'
      simp only [Walk.queries, hq]
      exact .cons hnow htimeout keepsTo_nil
  | case5 budget now frames d hd s hs w ih =>
    -- The rest of the walk keeps to the deadline from the time at which the step is done.
    have hrest : KeepsTo z deadline (z.after now s.query?.toList) w.queries := ih
    rw [Walk.queries_cons]
    cases hq : s.query? with
    | none =>
      rw [hq] at hrest
      exact hrest
    | some q =>
      have hq' : (attempt z deadline now d).query? = some q := by rw [hs]; exact hq
      obtain ⟨hnow, htimeout⟩ := timeout_of_attempt_query? hq'
      rw [hq] at hrest
      exact .cons hnow htimeout hrest

/-! ## Terms that are overdue -/

/-- The time that is left at `start` does not suffice for a term: it refers to a domain that is not
open, and the deadline has come, or it has come when the domain turns out not to answer in time. -/
def Due.IsOverdue (z : Zone Rat) (deadline start : Rat) (d : Due) : Prop :=
  ∃ link target, d.term.target? = some (link, target) ∧ target ∉ d.path ∧
    (deadline ≤ start ∨ ∃ m, z.answer target = .timedOut m ∧ deadline ≤ start + z.delay target)

/-- A term ends the walk for want of time if and only if it is overdue. -/
theorem exists_outOfTime_iff {d : Due} :
    (∃ q u, attempt z deadline now d = .halted (.outOfTime q u)) ↔ d.IsOverdue z deadline now := by
  constructor
  · rintro ⟨q, u, h⟩
    cases attempt_eq_halted_iff.1 h with
    | overdue ht hp hr => exact ⟨_, _, ht, hp, .inl (remaining_le_zero_iff.1 hr)⟩
    | late ht hp hr hz hl => exact ⟨_, _, ht, hp, .inr ⟨_, hz, remaining_le_zero_iff.1 hl⟩⟩
  · rintro ⟨link, target, ht, hp, htime⟩
    by_cases hr : remaining deadline now ≤ 0
    · exact ⟨_, _, attempt_eq_halted_iff.2 (.overdue ht hp hr)⟩
    · obtain hnow | ⟨m, hz, hl⟩ := htime
      · exact absurd (remaining_le_zero_iff.2 hnow) hr
      · exact ⟨_, _, attempt_eq_halted_iff.2 (.late ht hp hr hz (remaining_le_zero_iff.2 hl))⟩

/-- A walk runs out of time if and only if it comes to a term that is overdue. -/
theorem isOutOfTime_walk_iff : (walk z deadline budget now frames).ending.isOutOfTime = true ↔
    ∃ before d a after, evaluations z deadline budget now frames = before ++ (d, a) :: after ∧
      d.IsOverdue z deadline (z.after now (lookupsOf before)) := by
  constructor
  · intro hout
    -- The last term that is evaluated is the one at which the walk ends.
    have hlast : ∃ before d e after, evaluations z deadline budget now frames =
        before ++ (d, .halted e) :: after ∧ e.isOutOfTime = true := by
      fun_induction walk z deadline budget now frames with
      | case1 | case2 | case3 => cases hout
      | case4 budget now frames d hd e he =>
        simp only [evaluations, hd, he]
        exact ⟨[], d, e, [], rfl, hout⟩
      | case5 budget now frames d hd s hs w ih =>
        obtain ⟨before, d', e, after, hrest, he⟩ := ih hout
        simp only [evaluations, hd, hs, hrest]
        exact ⟨_ :: before, d', e, after, rfl, he⟩
    obtain ⟨before, d, e, after, hlog, he⟩ := hlast
    obtain ⟨hattempt, -, -⟩ := evaluations_eq_append hlog
    cases e with
    | outOfTime q u => exact ⟨before, d, _, after, hlog, exists_outOfTime_iff.1 ⟨q, u, hattempt⟩⟩
    | completed | overBudget | aborted => cases he
  · rintro ⟨before, d, a, after, hlog, hoverdue⟩
    obtain ⟨hattempt, -, hended⟩ := evaluations_eq_append hlog
    obtain ⟨q, u, hout⟩ := exists_outOfTime_iff.2 hoverdue
    rw [(hended _ (hattempt.symm.trans hout)).2]
    rfl

/-! ## Chains -/

/-- A chain was found in keeping with a deadline. The walk began at the time `now`, made `lookups`
and came to the terms of `log` within its budget. -/
structure Chain.KeepsDeadline (c : Chain) (z : Zone Rat) (deadline now : Rat) (budget : Nat)
    (log : List (Due × Attempt Rat)) (lookups : List (Query Rat)) : Prop where
  /-- The domains below the root are those met at the terms. -/
  nodes : c.nodes.tail = (stepsOf log).filterMap Step.node?
  /-- The loops are those met at the terms. -/
  cycles : c.cycles = (stepsOf log).filterMap Step.cycle?
  /-- The failures are those met at the terms. -/
  failures : c.failures = (stepsOf log).filterMap Step.failure?
  /-- The lookups are those made for the terms. -/
  lookups : lookups = lookupsOf log
  /-- The time is used up if and only if a term is overdue. -/
  timedOut_iff : c.timedOut = true ↔ ∃ before d a after, log = before ++ (d, a) :: after ∧
    d.IsOverdue z deadline (z.after now (lookupsOf before))
  /-- A term that is overdue is the last, and nothing is found at it. -/
  overdue : ∀ before d a after, log = before ++ (d, a) :: after →
    d.IsOverdue z deadline (z.after now (lookupsOf before)) → after = [] ∧ a.step? = none
  /-- If a domain does not answer in time before the deadline, then its lookup has failed, and the
  terms after it are evaluated from that time on. -/
  unanswered : ∀ before d a after link target m, log = before ++ (d, a) :: after →
    d.term.target? = some (link, target) → target ∉ d.path → z.answer target = .timedOut m →
    z.after now (lookupsOf before) < deadline →
    z.after now (lookupsOf before) + z.delay target < deadline →
      a.query? = some ⟨target, deadline - z.after now (lookupsOf before)⟩ ∧
        ⟨target, .lookupFailed, m⟩ ∈ c.failures ∧
        after = evaluations z deadline (budget - (before.length + 1))
          (z.after now (lookupsOf before) + z.delay target) d.rest

/-- What a walk found that was not aborted is in keeping with its deadline. -/
theorem keepsDeadline_chain_walk (records : List Text) (root : Record) :
    ((walk z deadline budget now frames).chain records root).KeepsDeadline z deadline now budget
      (evaluations z deadline budget now frames) (walk z deadline budget now frames).queries where
  nodes := by
    rw [stepsOf_evaluations]
    rfl
  cycles := by
    rw [stepsOf_evaluations]
    rfl
  failures := by
    rw [stepsOf_evaluations]
    rfl
  lookups := filterMap_query?_evaluations.symm
  timedOut_iff := isOutOfTime_walk_iff
  overdue before d a after hlog hoverdue := by
    obtain ⟨hattempt, -, hended⟩ := evaluations_eq_append hlog
    obtain ⟨q, u, hout⟩ := exists_outOfTime_iff.2 hoverdue
    obtain rfl := hattempt.symm.trans hout
    exact ⟨(hended _ rfl).1, rfl⟩
  unanswered before d a after link target m hlog ht hp hz hstart hdone := by
    obtain ⟨hattempt, hrest, -⟩ := evaluations_eq_append hlog
    have hr := mt remaining_le_zero_iff.1 (not_le.2 hstart)
    have hl := mt remaining_le_zero_iff.1 (not_le.2 hdone)
    have hrefusal : z.refusal? target = some (.lookupFailed, m) := by simp [Zone.refusal?, hz]
    have hstep := attempt_eq_stepped_iff.2
      (Due.Steps.unusable ht hp hr hrefusal fun _ => hl)
    obtain rfl := hattempt.symm.trans hstep
    refine ⟨?_, ?_, hrest _ rfl⟩
    · rw [← remaining_of_lt hstart]
      rfl
    · -- The failure is read off the step that was taken at the term.
      have hmem : Step.unusable link ⟨target, remaining deadline (z.after now (lookupsOf before))⟩
          d.depth .lookupFailed m ∈ (walk z deadline budget now frames).steps := by
        rw [← stepsOf_evaluations, hlog]
        simp [stepsOf, Attempt.step?]
      exact List.mem_filterMap.2 ⟨_, hmem, rfl⟩

namespace Chain

variable {l : Limits Rat} {c : Chain}

/-- The lookups of the expansion of a record keep to its deadline. -/
theorem keepsTo_evaluate (domain raw : Text) (records : List Text) :
    KeepsTo z deadline now (evaluate z l deadline now domain records raw).queries := by
  unfold evaluate
  cases Record.read raw domain with
  | error a => exact keepsTo_nil
  | ok root => exact keepsTo_walk

/-- The lookups that follow that of a domain's own records keep to the deadline. -/
theorem keepsTo_ofAnswer (domain : Text) (a : Answer) :
    KeepsTo z deadline now (ofAnswer z l deadline now domain a).queries := by
  cases a with
  | texts texts =>
    cases hs : selectSpfRecords texts with
    | nil =>
      simp only [ofAnswer, ofTexts, hs]
      exact keepsTo_nil
    | cons raw others =>
      rw [ofAnswer, (ofTexts_of_select z l deadline now domain hs).2]
      exact keepsTo_evaluate domain raw _
  | _ => exact keepsTo_nil

/-- No lookup follows that of a domain that publishes no record. -/
theorem queries_ofAnswer_of_published?_eq_none {domain : Text}
    (h : z.published? domain = none) :
    (ofAnswer z l deadline now domain (z.answer domain)).queries = [] := by
  unfold Zone.published? at h
  cases ha : z.answer domain with
  | texts texts =>
    have hs : selectSpfRecords texts = [] := by simpa [ha] using h
    simp only [ofAnswer, ofTexts, hs]
  | _ => rfl

/-- A chain without a root did not run out of time, and no lookup followed the first. -/
theorem resolve_of_root_eq_none {domain : Text} (h : (resolve z l now domain).outcome = .ok c)
    (hroot : c.root = none) : c.timedOut = false ∧
      (resolve z l now domain).queries =
        [⟨normalizeDomain domain, remaining (now + l.seconds) now⟩] := by
  rcases resolve_outcome_cases h with ⟨hp, hc⟩ | ⟨texts, raw, others, -, -, he⟩
  · rw [hc]
    refine ⟨rfl, ?_⟩
    simp only [resolve, queries_ofAnswer_of_published?_eq_none hp]
  · obtain ⟨root, -, -, hchain⟩ := evaluate_outcome_iff.1 he
    rw [← hchain] at hroot
    cases hroot

end Chain

/-- Of the seconds that are allowed, all but a negative number remain when they begin to run. -/
theorem remaining_add_self (seconds now : Rat) :
    remaining (now + seconds) now = max 0 seconds := by
  have hsub : now + seconds - now = seconds := by linarith
  unfold remaining
  rw [hsub]
  split
  · rename_i h
    exact (max_eq_right h.le).symm
  · rename_i h
    exact (max_eq_left (not_lt.1 h)).symm

/-- The deadline is kept. On an exact clock, the first lookup of a domain that is resolved is
allowed the seconds of the whole evaluation. Every later one begins before the deadline and is
allowed what is left until then, and so is every lookup of a preview. What is found is in keeping
with the deadline, and a chain without a root did not run out of time. If no lookup takes longer
than it is allowed, the evaluation ends by the deadline. -/
theorem deadline_kept (z : Zone Rat) (l : Limits Rat) (now : Rat) (domain raw : Text) :
    ((∃ lookups, (Chain.resolve z l now domain).queries =
          ⟨normalizeDomain domain, max 0 l.seconds⟩ :: lookups ∧
        KeepsTo z (now + l.seconds) (now + z.delay (normalizeDomain domain)) lookups ∧
        ∀ c, (Chain.resolve z l now domain).outcome = .ok c →
          (c.root = none → c.timedOut = false ∧ lookups = []) ∧
          ∀ root, c.root = some root → c.KeepsDeadline z (now + l.seconds)
            (now + z.delay (normalizeDomain domain)) l.lookups.most.toNat
            (evaluations z (now + l.seconds) l.lookups.most.toNat
              (now + z.delay (normalizeDomain domain)) [⟨normalizeDomain domain, root.terms⟩])
            lookups) ∧
      (0 ≤ l.seconds →
        (∀ q ∈ (Chain.resolve z l now domain).queries, z.delay q.domain ≤ q.timeout) →
          z.after now (Chain.resolve z l now domain).queries ≤ now + l.seconds)) ∧
    KeepsTo z (now + l.seconds) now (Chain.preview z l now domain raw).queries ∧
      (∀ c, (Chain.preview z l now domain raw).outcome = .ok c →
        ∃ root, c.root = some root ∧ c.KeepsDeadline z (now + l.seconds) now
          l.lookups.most.toNat
          (evaluations z (now + l.seconds) l.lookups.most.toNat now
            [⟨normalizeDomain domain, root.terms⟩])
          (Chain.preview z l now domain raw).queries) ∧
      (0 ≤ l.seconds →
        (∀ q ∈ (Chain.preview z l now domain raw).queries, z.delay q.domain ≤ q.timeout) →
          z.after now (Chain.preview z l now domain raw).queries ≤ now + l.seconds) := by
  obtain ⟨lookups, hlookups⟩ : ∃ lookups, (Chain.resolve z l now domain).queries =
      ⟨normalizeDomain domain, remaining (now + l.seconds) now⟩ :: lookups := ⟨_, rfl⟩
  have hresolve : KeepsTo z (now + l.seconds) (now + z.delay (normalizeDomain domain)) lookups := by
    obtain ⟨-, rfl⟩ := List.cons.inj hlookups
    exact Chain.keepsTo_ofAnswer _ _
  have hpreview : KeepsTo z (now + l.seconds) now (Chain.preview z l now domain raw).queries :=
    Chain.keepsTo_evaluate _ raw _
  refine ⟨⟨⟨lookups, by rw [hlookups, remaining_add_self], hresolve, fun c hc => ⟨?_, ?_⟩⟩,
    fun hseconds hdelay => ?_⟩, hpreview, fun c hc => ?_, fun hseconds hdelay => ?_⟩
  · intro hroot
    obtain ⟨htimedOut, hqueries⟩ := Chain.resolve_of_root_eq_none hc hroot
    exact ⟨htimedOut, (List.cons.inj (hlookups.symm.trans hqueries)).2⟩
  · intro root hroot
    obtain ⟨records, text, w, rfl, hread, -, rfl, hqueries⟩ := Chain.resolve_of_root hc hroot
    obtain ⟨-, rfl⟩ := List.cons.inj (hlookups.symm.trans hqueries)
    exact keepsDeadline_chain_walk records root
  · -- The first lookup is answered by the deadline, so the others are.
    rw [hlookups] at hdelay ⊢
    have hfirst := hdelay _ List.mem_cons_self
    rw [remaining_add_self, max_eq_right hseconds] at hfirst
    exact hresolve.after_le (fun q hq => hdelay q (List.mem_cons_of_mem _ hq)) (by linarith)
  · obtain ⟨root, hread, habort, rfl⟩ := Chain.evaluate_outcome_iff.1 hc
    refine ⟨root, rfl, ?_⟩
    rw [Chain.preview, Chain.queries_evaluate hread]
    exact keepsDeadline_chain_walk [raw] root
  · exact hpreview.after_le hdelay (by linarith)

/-- A zone in which the domains that a record refers to do not answer in time. -/
def silentZone : Zone Rat where
  answer domain :=
    if domain = ("a" : Text) then .texts ["v=spf1 include:b include:c include:d -all"]
    else .timedOut "no answer"
  delay _ := 1

/-- The terms of the record in the zone. -/
def silentTerms : List Term := [.version, .mechanism .pass (.includes "b"),
  .mechanism .pass (.includes "c"), .mechanism .pass (.includes "d"), .mechanism .fail .all]

/-- With three seconds allowed, the answer that is missed at the time 2 is a failure like others,
and the one that is missed at the time 3 ends the walk. It ends on time. -/
theorem silentZone_on_time :
    ∃ c, (Chain.resolve silentZone ⟨(10 : Int), 3⟩ 0 ("a" : Text)).outcome = .ok c ∧
      c.timedOut = true ∧ ⟨"b", .lookupFailed, "no answer"⟩ ∈ c.failures ∧
      silentZone.after 0 (Chain.resolve silentZone ⟨(10 : Int), 3⟩ 0 ("a" : Text)).queries ≤ 3 := by
  obtain ⟨c, hc, hfound⟩ : ∃ c,
      (Chain.resolve silentZone ⟨(10 : Int), 3⟩ 0 ("a" : Text)).outcome = .ok c ∧
        (c.timedOut, c.root.map Record.terms) = (true, some silentTerms) :=
    exists_ok_of_map_toOption (fun c : Chain => (c.timedOut, c.root.map Record.terms))
      (by decide +kernel)
  obtain ⟨htimedOut, hroot⟩ := Prod.mk.inj hfound
  obtain ⟨root, hroot, hterms⟩ := Option.map_eq_some_iff.1 hroot
  -- The first term that is evaluated is the one that refers to `b`.
  have hfirst : (evaluations silentZone (0 + 3) 10 (0 + 1) [⟨("a" : Text), silentTerms⟩]).head?.map
      (fun p => (p.1.term.target?, p.1.path)) =
        some (some (Link.includes, ("b" : Text)), [("a" : Text)]) := by decide +kernel
  obtain ⟨⟨d, a⟩, hlog, hd⟩ := Option.map_eq_some_iff.1 hfirst
  obtain ⟨after, hlog⟩ := List.head?_eq_some_iff.1 hlog
  obtain ⟨ht, hp⟩ := Prod.mk.inj hd
  have hb : ("b" : Text) ∉ d.path := by
    rw [hp]
    decide
  obtain ⟨⟨lookups, -, -, hkept⟩, hend⟩ :=
    (deadline_kept silentZone ⟨(10 : Int), 3⟩ 0 ("a" : Text) []).1
  have hkept := (hkept c hc).2 root hroot
  rw [hterms] at hkept
  have hfailed := (hkept.unanswered [] d a after .includes "b" "no answer" hlog ht hb
    (by decide +kernel) (by decide +kernel) (by decide +kernel)).2.1
  have htime := hend (by decide) (by decide +kernel)
  rw [zero_add] at htime
  exact ⟨c, hc, htimedOut, hfailed, htime⟩

/-! ## Where sums are rounded -/

/-- A zone on a machine's clock in which the record of one domain refers to another domain. -/
def pairZone (delay : Text → Binary64) : Zone Binary64 where
  answer domain :=
    if domain = ("a" : Text) then .texts ["v=spf1 include:b -all"] else .texts ["v=spf1 -all"]
  delay := delay

/-- The zone in which the lookups take 0.6 and 1.1 seconds. -/
def brinkZone : Zone Binary64 :=
  pairZone fun domain =>
    if domain = ("a" : Text) then .ofDecimal false 6 (-1) else .ofDecimal false 11 (-1)

/-- The 1.7 seconds that the two lookups take together. -/
def brinkSeconds : Binary64 := .ofDecimal false 17 (-1)

/-- On a machine the deadline is not kept exactly. The time at which it is set may be rounded, so
that even the first lookup is allowed other seconds than the whole evaluation: after the time 1000,
eight seconds of `2 ^ 56` are lost. And although no lookup takes longer than it is allowed, the sum
of their times may be rounded beyond the deadline: from the time 0, the second lookup takes just
the 1.1 seconds that are left of 1.7, and it is answered late. -/
theorem brinkZone_overrun :
    (Chain.resolve (pairZone fun _ => 0) ⟨(10 : Int), .ofInt (2 ^ 56)⟩ (.ofInt 1000)
        ("a" : Text)).queries = [⟨"a", .ofInt (2 ^ 56 - 8)⟩, ⟨"b", .ofInt (2 ^ 56 - 8)⟩] ∧
      (∀ q ∈ (Chain.resolve brinkZone ⟨(10 : Int), brinkSeconds⟩ 0 ("a" : Text)).queries,
        brinkZone.delay q.domain ≤ q.timeout) ∧
      0 + brinkSeconds < brinkZone.after 0
        (Chain.resolve brinkZone ⟨(10 : Int), brinkSeconds⟩ 0 ("a" : Text)).queries :=
  ⟨by decide +kernel, by decide +kernel, by decide +kernel⟩

end SenderPolicy
