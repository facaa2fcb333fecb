import SenderPolicy.Chain.Resolution
import SenderPolicy.Proofs.Chain.Step
import SenderPolicy.Proofs.Record.Readable

/-!
# The chains that are returned

A chain that is returned is either that of a domain that publishes no record, in which nothing was
met, or what a walk found that was not aborted. `evaluate_outcome_iff` says so for the expansion of
one record, `resolve_outcome_cases` for that of a domain. `forall_mem_steps_walk` and
`ending_walk_cases` carry what holds of the single evaluations of terms over to the walk.
-/

namespace SenderPolicy

/-- Why a walk was aborted, if it was. -/
def Ending.abort? {τ : Type} : Ending τ → Option Abort
  | .aborted _ a => some a
  | _ => none

/-- A walk that was neither halted nor aborted evaluated every term. -/
theorem Ending.eq_completed {τ : Type} {e : Ending τ} (ha : e.abort? = none)
    (ho : e.isOverBudget = false) (ht : e.isOutOfTime = false) : e = .completed := by
  cases e with
  | completed => rfl
  | overBudget => cases ho
  | outOfTime => cases ht
  | aborted => cases ha

namespace Walk

variable {τ : Type} (s : Step τ) (w : Walk τ)

/-- The domains that a walk meets are those of its first step and those of the others. -/
theorem nodes_cons : (Walk.mk (s :: w.steps) w.ending).nodes = s.node?.toList ++ w.nodes := by
  unfold nodes
  rw [List.filterMap_cons]
  cases s.node? <;> rfl

/-- The loops that a walk comes to are those of its first step and those of the others. -/
theorem cycles_cons : (Walk.mk (s :: w.steps) w.ending).cycles = s.cycle?.toList ++ w.cycles := by
  unfold cycles
  rw [List.filterMap_cons]
  cases s.cycle? <;> rfl

/-- The lookups of a walk are those of its first step and those of the others. -/
theorem queries_cons :
    (Walk.mk (s :: w.steps) w.ending).queries = s.query?.toList ++ w.queries := by
  unfold queries
  rw [List.filterMap_cons]
  cases s.query? <;> rfl

/-- Every step of a walk is charged one lookup. -/
theorem charged_cons : (Walk.mk (s :: w.steps) w.ending).charged = w.charged + 1 := by
  simp only [charged, List.length_cons]
  omega

end Walk

/-- A step looks up the domain that it meets. -/
theorem Step.map_domain_query? {τ : Type} (s : Step τ) :
    s.query?.map Query.domain = s.node?.map Node.domain := by
  cases s <;> rfl

/-- A walk looks up the domains that it meets, and at most one more, with which it ends. -/
theorem Walk.map_domain_queries {τ : Type} (w : Walk τ) : w.queries.map Query.domain =
    w.nodes.map Node.domain ++ (w.ending.query?.map Query.domain).toList := by
  have hstep : (fun s : Step τ => s.query?.map Query.domain) = fun s => s.node?.map Node.domain :=
    funext Step.map_domain_query?
  have hsteps : (w.steps.filterMap Step.query?).map Query.domain = w.nodes.map Node.domain := by
    rw [nodes, List.map_filterMap, List.map_filterMap, hstep]
  rw [queries, List.map_append, hsteps]
  cases w.ending.query? <;> rfl

/-- A walk that was not aborted returns what it found. -/
theorem Walk.outcome_eq_ok_iff {τ : Type} {w : Walk τ} {records : List Text} {root : Record}
    {c : Chain} :
    w.outcome records root = .ok c ↔ w.ending.abort? = none ∧ w.chain records root = c := by
  unfold Walk.outcome Ending.abort?
  cases w.ending <;> simp

section Timing

variable {τ : Type} [Seconds τ]

section Walk

variable {z : Zone τ} {deadline : τ}

/-- A walk with no term left does nothing. -/
theorem walk_of_next?_eq_none (budget : Nat) {now : τ} {frames : List Frame}
    (hd : Due.next? frames = none) :
    walk z deadline budget now frames = ⟨[], .completed⟩ := by
  cases budget <;> simp only [walk, hd]

/-- A walk that goes on after the term that is due takes its step first. -/
theorem walk_of_stepped {budget : Nat} {now : τ} {frames : List Frame} {d : Due} {s : Step τ}
    (hd : Due.next? frames = some d) (hs : attempt z deadline now d = .stepped s) :
    walk z deadline (budget + 1) now frames =
      ⟨s :: (walk z deadline budget (s.doneAt z now) (s.opened ++ d.rest)).steps,
        (walk z deadline budget (s.doneAt z now) (s.opened ++ d.rest)).ending⟩ := by
  simp only [walk, hd, hs]

/-- A walk that the term that is due ends takes no step. -/
theorem walk_of_halted {budget : Nat} {now : τ} {frames : List Frame} {d : Due} {e : Ending τ}
    (hd : Due.next? frames = some d) (he : attempt z deadline now d = .halted e) :
    walk z deadline (budget + 1) now frames = ⟨[], e⟩ := by
  simp only [walk, hd, he]

/-- What holds of everything that the evaluation of a term can lead to holds of the steps of a
walk. -/
theorem forall_mem_steps_walk {P : Step τ → Prop}
    (h : ∀ (d : Due) (now : τ) (s : Step τ), d.Steps z deadline now s → P s) (budget : Nat)
    (now : τ) (frames : List Frame) : ∀ s ∈ (walk z deadline budget now frames).steps, P s := by
  fun_induction walk z deadline budget now frames with
  | case5 budget now frames d hd s hs w ih =>
    intro s' hs'
    rcases List.mem_cons.1 hs' with rfl | hs'
    · exact h d now s' (attempt_eq_stepped_iff.1 hs)
    · exact ih s' hs'
  | _ => simp

/-- A walk ends when every term was evaluated, at a term that is over the budget, or at a term
whose evaluation ends it. -/
theorem ending_walk_cases (z : Zone τ) (deadline : τ) (budget : Nat) (now : τ)
    (frames : List Frame) :
    (walk z deadline budget now frames).ending = .completed ∨
      (∃ d : Due, (walk z deadline budget now frames).ending = .overBudget d.unresolved) ∨
      ∃ (d : Due) (start : τ),
        d.Halts z deadline start (walk z deadline budget now frames).ending := by
  fun_induction walk z deadline budget now frames with
  | case1 | case3 => exact .inl rfl
  | case2 now frames d hd => exact .inr (.inl ⟨d, rfl⟩)
  | case4 budget now frames d hd e he => exact .inr (.inr ⟨d, now, attempt_eq_halted_iff.1 he⟩)
  | case5 budget now frames d hd s hs w ih => exact ih

end Walk

namespace Chain

variable {z : Zone τ} {l : Limits τ} {c : Chain}

/-- The expansion of a record returns what the walk through it found, if the record can be read and
the walk is not aborted. -/
theorem evaluate_outcome_iff {deadline now : τ} {domain : Text} {records : List Text}
    {raw : Text} :
    (evaluate z l deadline now domain records raw).outcome = .ok c ↔
      ∃ root, Record.read raw domain = .ok root ∧
        (walk z deadline l.lookups.most.toNat now [⟨domain, root.terms⟩]).ending.abort? = none ∧
        (walk z deadline l.lookups.most.toNat now [⟨domain, root.terms⟩]).chain records root =
          c := by
  unfold evaluate
  cases hread : Record.read raw domain with
  | error a => simp
  | ok root => simp [Walk.outcome_eq_ok_iff]

/-- Of several records the first is expanded. -/
theorem ofTexts_of_select (z : Zone τ) (l : Limits τ) (deadline now : τ) (domain : Text)
    {texts others : List Text} {raw : Text} (h : selectSpfRecords texts = raw :: others) :
    (ofTexts z l deadline now domain texts).outcome =
        (evaluate z l deadline now domain (raw :: others) raw).outcome ∧
      (ofTexts z l deadline now domain texts).queries =
        (evaluate z l deadline now domain (raw :: others) raw).queries := by
  unfold ofTexts
  rw [h]
  cases others <;> exact ⟨rfl, rfl⟩

/-- What is returned for a domain is decided by the answer to the lookup of its own TXT records. -/
theorem resolve_outcome (now : τ) (domain : Text) :
    (resolve z l now domain).outcome =
      (ofAnswer z l (now + l.seconds) (now + z.delay (normalizeDomain domain))
        (normalizeDomain domain) (z.answer (normalizeDomain domain))).outcome := rfl

/-- A chain that is returned for a domain has no root, if the domain publishes no record, or is the
expansion of the first record that it publishes. -/
theorem resolve_outcome_cases {now : τ} {domain : Text}
    (h : (resolve z l now domain).outcome = .ok c) :
    (z.published? (normalizeDomain domain) = none ∧
        c = { ofDomain (normalizeDomain domain) with rootError := c.rootError }) ∨
      ∃ texts raw others, z.answer (normalizeDomain domain) = .texts texts ∧
        selectSpfRecords texts = raw :: others ∧
        (evaluate z l (now + l.seconds) (now + z.delay (normalizeDomain domain))
          (normalizeDomain domain) (raw :: others) raw).outcome = .ok c := by
  rw [resolve_outcome] at h
  unfold Zone.published?
  cases ha : z.answer (normalizeDomain domain) with
  | texts texts =>
    rw [ha] at h
    cases hs : selectSpfRecords texts with
    | nil =>
      left
      simp only [ofAnswer, ofTexts, hs, Except.ok.injEq] at h
      subst h
      exact ⟨by simp [hs], rfl⟩
    | cons raw others =>
      refine .inr ⟨texts, raw, others, rfl, hs, ?_⟩
      rw [← (ofTexts_of_select z l _ _ _ hs).1]
      exact h
  | broken m => simp [ha, ofAnswer] at h
  | _ =>
    -- Nothing was found; the chain at most tells why.
    left
    simp only [ha, ofAnswer, unfetched, Except.ok.injEq] at h
    subst h
    exact ⟨rfl, rfl⟩

/-- The expansion of a record makes the lookups of the walk through it. -/
theorem queries_evaluate {deadline now : τ} {domain raw : Text} {records : List Text}
    {root : Record} (hread : Record.read raw domain = .ok root) :
    (evaluate z l deadline now domain records raw).queries =
      (walk z deadline l.lookups.most.toNat now [⟨domain, root.terms⟩]).queries := by
  unfold evaluate
  rw [hread]

/-- A chain with a root that is returned for a domain is what the walk through the root found, and
the first lookup was that of the domain itself. -/
theorem resolve_of_root {now : τ} {domain : Text} {root : Record}
    (h : (resolve z l now domain).outcome = .ok c) (hroot : c.root = some root) :
    ∃ records raw w, w = walk z (now + l.seconds) l.lookups.most.toNat
          (now + z.delay (normalizeDomain domain)) [⟨normalizeDomain domain, root.terms⟩] ∧
      Record.read raw (normalizeDomain domain) = .ok root ∧ w.ending.abort? = none ∧
      w.chain records root = c ∧
      (resolve z l now domain).queries =
        ⟨normalizeDomain domain, remaining (now + l.seconds) now⟩ :: w.queries := by
  rcases resolve_outcome_cases h with ⟨-, hc⟩ | ⟨texts, raw, others, ha, hs, he⟩
  · rw [hc] at hroot
    cases hroot
  · obtain ⟨root', hread, habort, hchain⟩ := evaluate_outcome_iff.1 he
    obtain rfl : root' = root := by
      rw [← hchain] at hroot
      exact Option.some.inj hroot
    refine ⟨_, raw, _, rfl, hread, habort, hchain, ?_⟩
    simp only [resolve, ha, ofAnswer, (ofTexts_of_select z l _ _ _ hs).2, queries_evaluate hread]

/-- A chain that is returned for a record is what the walk through it found. -/
theorem preview_of_root {now : τ} {domain raw : Text} {root : Record}
    (h : (preview z l now domain raw).outcome = .ok c) (hroot : c.root = some root) :
    ∃ w, w = walk z (now + l.seconds) l.lookups.most.toNat now
          [⟨normalizeDomain domain, root.terms⟩] ∧
      Record.read raw (normalizeDomain domain) = .ok root ∧ w.ending.abort? = none ∧
      w.chain [raw] root = c ∧ (preview z l now domain raw).queries = w.queries := by
  obtain ⟨root', hread, habort, hchain⟩ := evaluate_outcome_iff.1 h
  obtain rfl : root' = root := by
    rw [← hchain] at hroot
    exact Option.some.inj hroot
  exact ⟨_, rfl, hread, habort, hchain, queries_evaluate hread⟩

/-- A chain with a root is what a walk through the root found, whether the root was looked up or
given. -/
theorem exists_walk_of_root {now : τ} {domain raw : Text} {root : Record}
    (h : (resolve z l now domain).outcome = .ok c ∨ (preview z l now domain raw).outcome = .ok c)
    (hroot : c.root = some root) :
    ∃ start records text, Record.read text (normalizeDomain domain) = .ok root ∧
      (walk z (now + l.seconds) l.lookups.most.toNat start
        [⟨normalizeDomain domain, root.terms⟩]).ending.abort? = none ∧
      (walk z (now + l.seconds) l.lookups.most.toNat start
        [⟨normalizeDomain domain, root.terms⟩]).chain records root = c := by
  rcases h with h | h
  · obtain ⟨records, text, w, rfl, hread, habort, hchain, -⟩ := resolve_of_root h hroot
    exact ⟨_, records, text, hread, habort, hchain⟩
  · obtain ⟨w, rfl, hread, habort, hchain, -⟩ := preview_of_root h hroot
    exact ⟨_, [raw], raw, hread, habort, hchain⟩

end Chain

end Timing

end SenderPolicy
