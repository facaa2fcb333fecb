import SenderPolicy.Proofs.Chain.Expansion
import SenderPolicy.Proofs.Record.Readable

/-!
# Expansions that return a chain

Every answer of a zone becomes part of the chain, but for two: the record that is found cannot be
read, or the source itself failed. `Answer.Readable` rules these out. A walk is aborted only where
an answer is not readable (`abort?_walk_eq_none_iff`), so a chain is returned if and only if all
answers to the lookups that are made are readable (`exists_resolve_iff`, `exists_preview_iff`).
-/

namespace SenderPolicy

/-- The first SPF record in an answer can be read, if there is one. A failure of the source is no
answer. -/
def Answer.Readable : Answer → Prop
  | .texts found => ∀ raw ∈ (selectSpfRecords found).head?, Record.Readable raw
  | .broken _ => False
  | _ => True

section Zone

variable {τ : Type} {z : Zone τ} {domain : Text}

/-- The answer for a domain that is refused is readable. -/
theorem Zone.readable_of_refusal? {p : FailureKind × Text} (h : z.refusal? domain = some p) :
    (z.answer domain).Readable := by
  have hnone := published?_of_refusal? h
  unfold published? at hnone
  unfold refusal? at h
  unfold Answer.Readable
  cases ha : z.answer domain with
  | texts texts =>
    rw [ha] at hnone
    dsimp only at hnone ⊢
    rw [hnone]
    simp
  | broken m =>
    rw [ha] at h
    cases h
  | _ => trivial

/-- The answer for a domain that publishes a record is readable if the record is. -/
theorem Zone.readable_iff_of_published? {raw : Text} (h : z.published? domain = some raw) :
    (z.answer domain).Readable ↔ Record.Readable raw := by
  unfold published? at h
  unfold Answer.Readable
  cases ha : z.answer domain with
  | texts texts =>
    rw [ha] at h
    dsimp only at h ⊢
    rw [h]
    simp
  | _ =>
    rw [ha] at h
    cases h

end Zone

section Timing

variable {τ : Type} [Seconds τ] {z : Zone τ} {deadline now : τ}

/-- The answer to the lookup of a step is readable. -/
theorem Due.Steps.readable {d : Due} {s : Step τ} (h : d.Steps z deadline now s) {q : Query τ}
    (hq : s.query? = some q) : (z.answer q.domain).Readable := by
  cases h with
  | charged | loop => cases hq
  | unusable ht hp hr hz hl =>
    cases hq
    exact Zone.readable_of_refusal? hz
  | entered ht hp hr hz hread =>
    cases hq
    exact (Zone.readable_iff_of_published? hz).2 ((Record.exists_read_iff _).1 ⟨_, hread⟩)

/-- A walk is aborted at an answer that is not readable, and at no other. -/
theorem Due.Halts.abort?_eq_none_iff {d : Due} {e : Ending τ} (h : d.Halts z deadline now e) :
    e.abort? = none ↔ ∀ q, e.query? = some q → (z.answer q.domain).Readable := by
  cases h with
  | overdue => simp [Ending.abort?, Ending.query?]
  | late ht hp hr hz hl => simp [Ending.abort?, Ending.query?, hz, Answer.Readable]
  | unreadable ht hp hr hz hread =>
    refine iff_of_false (by simp [Ending.abort?]) fun hall => ?_
    have hraw := (Zone.readable_iff_of_published? hz).1 (hall _ rfl)
    obtain ⟨r, hr⟩ := (Record.exists_read_iff _).2 hraw
    rw [hread] at hr
    cases hr
  | broken ht hp hr hz => simp [Ending.abort?, Ending.query?, hz, Answer.Readable]

/-- A walk is not aborted if and only if the answers to all its lookups are readable. -/
theorem abort?_walk_eq_none_iff {budget : Nat} {frames : List Frame} :
    (walk z deadline budget now frames).ending.abort? = none ↔
      ∀ q ∈ (walk z deadline budget now frames).queries, (z.answer q.domain).Readable := by
  have hsteps : ∀ q ∈ (walk z deadline budget now frames).steps.filterMap Step.query?,
      (z.answer q.domain).Readable := by
    intro q hq
    obtain ⟨s, hs, hquery⟩ := List.mem_filterMap.1 hq
    have hreadable : ∀ s ∈ (walk z deadline budget now frames).steps, ∀ q, s.query? = some q →
        (z.answer q.domain).Readable :=
      forall_mem_steps_walk (fun _ _ _ h _ hq => h.readable hq) budget now frames
    exact hreadable s hs q hquery
  -- The steps have readable answers in any case, so all depends on the lookup that ends the walk.
  have hending : (walk z deadline budget now frames).ending.abort? = none ↔
      ∀ q, (walk z deadline budget now frames).ending.query? = some q →
        (z.answer q.domain).Readable := by
    rcases ending_walk_cases z deadline budget now frames with hc | ⟨d, ho⟩ | ⟨d, start, hh⟩
    · simp [hc, Ending.abort?, Ending.query?]
    · simp [ho, Ending.abort?, Ending.query?]
    · exact hh.abort?_eq_none_iff
  rw [hending, Walk.queries]
  constructor
  · intro hlast q hq
    rcases List.mem_append.1 hq with hq | hq
    · exact hsteps q hq
    · exact hlast q (Option.mem_toList.1 hq)
  · intro hall q hq
    exact hall q (List.mem_append_right _ (Option.mem_toList.2 hq))

namespace Chain

variable {l : Limits τ}

/-- A record is expanded if it and the answers to all lookups on the way can be read. -/
theorem exists_evaluate_iff {domain raw : Text} {records : List Text} :
    (∃ c, (evaluate z l deadline now domain records raw).outcome = .ok c) ↔
      Record.Readable raw ∧
        ∀ q ∈ (evaluate z l deadline now domain records raw).queries,
          (z.answer q.domain).Readable := by
  rw [← Record.exists_read_iff domain]
  unfold evaluate
  cases Record.read raw domain with
  | error a => simp
  | ok root => simp [Walk.outcome_eq_ok_iff, abort?_walk_eq_none_iff]

/-- A chain is returned for an answer if it and the answers to all further lookups are readable. -/
theorem exists_ofAnswer_iff {domain : Text} {a : Answer} :
    (∃ c, (ofAnswer z l deadline now domain a).outcome = .ok c) ↔
      a.Readable ∧ ∀ q ∈ (ofAnswer z l deadline now domain a).queries,
        (z.answer q.domain).Readable := by
  cases a with
  | texts texts =>
    cases hs : selectSpfRecords texts with
    | nil => simp [ofAnswer, ofTexts, Answer.Readable, hs]
    | cons raw others =>
      obtain ⟨houtcome, hqueries⟩ := ofTexts_of_select z l deadline now domain hs
      have hreadable : (Answer.texts texts).Readable ↔ Record.Readable raw := by
        simp [Answer.Readable, hs]
      rw [hreadable, ofAnswer, houtcome, hqueries]
      exact exists_evaluate_iff
  | _ => simp [ofAnswer, unfetched, Answer.Readable]

/-- A domain is resolved if the answers to all lookups that are made for it are readable. -/
theorem exists_resolve_iff {domain : Text} : (∃ c, (resolve z l now domain).outcome = .ok c) ↔
    ∀ q ∈ (resolve z l now domain).queries, (z.answer q.domain).Readable := by
  simp only [resolve, List.forall_mem_cons]
  exact exists_ofAnswer_iff

/-- A record that is given for a domain is resolved if it and the answers to all lookups that are
made for it can be read. -/
theorem exists_preview_iff {domain raw : Text} :
    (∃ c, (preview z l now domain raw).outcome = .ok c) ↔ Record.Readable raw ∧
      ∀ q ∈ (preview z l now domain raw).queries, (z.answer q.domain).Readable :=
  exists_evaluate_iff

end Chain

end Timing

end SenderPolicy
