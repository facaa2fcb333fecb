import SenderPolicy.Proofs.Chain.Budget

/-!
# Evaluation comes to its end

`walk` goes down with its budget, so that it ends needs no proof. `Runs` is the same evaluation with
nothing that goes down: a counter of the lookups charged goes up and is compared with the limit,
which may be negative, before each term is evaluated. A derivation of `Runs` is an evaluation that
has come to its end. `runs_iff_eq_walk` shows that there is one from every state on every zone, and
that it did what `walk` does with the lookups that the counter leaves.

`resolution_within_limit` puts the bounds of `Proofs/Chain/Budget.lean` together for the two ways of
asking for a chain.
-/

namespace SenderPolicy

section Timing

variable {τ : Type} [Seconds τ]

/-- The evaluation of the terms of open records from the time `now` on, when a number of lookups
has been charged. -/
inductive Runs (z : Zone τ) (deadline : τ) (limit : Int) :
    (charged : Int) → (now : τ) → List Frame → Walk τ → Prop
  /-- Every term was evaluated. -/
  | completed {charged : Int} {now : τ} {frames : List Frame} (hd : Due.next? frames = none) :
      Runs z deadline limit charged now frames ⟨[], .completed⟩
  /-- The next term takes the counter over the limit. -/
  | overBudget {charged : Int} {now : τ} {frames : List Frame} {d : Due}
      (hd : Due.next? frames = some d) (hl : limit < charged + 1) :
      Runs z deadline limit charged now frames ⟨[], .overBudget d.unresolved⟩
  /-- The next term ends the evaluation. -/
  | halted {charged : Int} {now : τ} {frames : List Frame} {d : Due} {e : Ending τ}
      (hd : Due.next? frames = some d) (hl : charged + 1 ≤ limit)
      (he : attempt z deadline now d = .halted e) :
      Runs z deadline limit charged now frames ⟨[], e⟩
  /-- The evaluation goes on after the next term. -/
  | stepped {charged : Int} {now : τ} {frames : List Frame} {d : Due} {s : Step τ} {w : Walk τ}
      (hd : Due.next? frames = some d) (hl : charged + 1 ≤ limit)
      (hs : attempt z deadline now d = .stepped s)
      (hw : Runs z deadline limit (charged + 1) (s.doneAt z now) (s.opened ++ d.rest) w) :
      Runs z deadline limit charged now frames ⟨s :: w.steps, w.ending⟩

variable {z : Zone τ} {deadline now : τ} {limit charged : Int} {frames : List Frame} {w : Walk τ}

/-- An evaluation does what the walk does with the lookups that the counter leaves. -/
theorem Runs.eq_walk (h : Runs z deadline limit charged now frames w) :
    w = walk z deadline (limit - charged).toNat now frames := by
  induction h with
  | completed hd => rw [walk_of_next?_eq_none _ hd]
  | overBudget hd hl =>
    rw [Int.toNat_of_nonpos (by omega)]
    simp only [walk, hd]
  | @halted charged now frames d e hd hl he =>
    -- The counter is within the limit, so a lookup is left.
    have hb : (limit - charged).toNat = (limit - (charged + 1)).toNat + 1 := by omega
    rw [hb]
    simp only [walk, hd, he]
  | @stepped charged now frames d s w hd hl hs hw ih =>
    have hb : (limit - charged).toNat = (limit - (charged + 1)).toNat + 1 := by omega
    rw [hb]
    simp only [walk, hd, hs, ← ih]

/-- The evaluation comes to its end from every state, with what the walk does. -/
theorem runs_walk : Runs z deadline limit charged now frames
    (walk z deadline (limit - charged).toNat now frames) := by
  generalize hb : (limit - charged).toNat = budget
  -- Every term that is evaluated takes one off what the counter leaves.
  induction budget generalizing charged now frames with
  | zero =>
    cases hd : Due.next? frames with
    | none =>
      rw [walk_of_next?_eq_none _ hd]
      exact .completed hd
    | some d =>
      simp only [walk, hd]
      exact .overBudget hd (by omega)
  | succ budget ih =>
    cases hd : Due.next? frames with
    | none =>
      rw [walk_of_next?_eq_none _ hd]
      exact .completed hd
    | some d =>
      have hl : charged + 1 ≤ limit := by omega
      cases ha : attempt z deadline now d with
      | halted e =>
        simp only [walk, hd, ha]
        exact .halted hd hl ha
      | stepped s =>
        simp only [walk, hd, ha]
        exact .stepped hd hl ha (ih (by omega))

/-- An evaluation comes to its end, and in one way only: as the walk does. -/
theorem runs_iff_eq_walk : Runs z deadline limit charged now frames w ↔
    w = walk z deadline (limit - charged).toNat now frames := by
  constructor
  · exact Runs.eq_walk
  · rintro rfl
    exact runs_walk

/-! ## What is returned -/

/-- A chain whose expansion kept within an integer limit: one lookup more than allowed may be
charged, that of the term at which the expansion was halted. -/
structure Chain.Within (c : Chain) (limit : Int) : Prop where
  /-- The lookups charged. -/
  lookups_le : c.lookups ≤ max limit 0 + 1
  /-- The depth of every domain met. -/
  depth_le : ∀ n ∈ c.nodes, (n.depth : Int) ≤ max limit 0
  /-- The number of domains met, with the root. -/
  length_nodes_le : (c.nodes.length : Int) ≤ max limit 0 + 1
  /-- A limit that can be kept is exceeded if and only if more lookups are charged than allowed. -/
  limitExceeded_iff : 0 ≤ limit → (c.limitExceeded = true ↔ limit < c.lookups)

/-- A chain in which nothing was met keeps within every limit. -/
theorem Chain.within_ofDomain (domain : Text) (error : Option Text) (limit : Int) :
    Chain.Within { Chain.ofDomain domain with rootError := error } limit where
  lookups_le := by simp only [Chain.ofDomain]; omega
  depth_le := by simp [Chain.ofDomain]
  length_nodes_le := by simp only [Chain.ofDomain, List.length_nil]; omega
  limitExceeded_iff h := by simp [Chain.ofDomain, h]

/-- What a walk from the root found keeps within its limit. -/
theorem Chain.within_chain_walk {domain : Text} {terms : List Term} (records : List Text)
    (root : Record) :
    Chain.Within ((walk z deadline limit.toNat now [⟨domain, terms⟩]).chain records root)
      limit where
  lookups_le := by
    have : (walk z deadline limit.toNat now [⟨domain, terms⟩]).charged ≤ limit.toNat + 1 :=
      charged_walk_le
    simp only [Walk.chain]
    omega
  depth_le n hn := by
    -- The root stands at depth zero, whatever the limit.
    rcases List.mem_cons.1 hn with rfl | hn
    · simp only
      omega
    · have := depth_lt_of_mem_nodes_walk hn
      simp only [List.length_singleton] at this
      omega
  length_nodes_le := by
    have : (walk z deadline limit.toNat now [⟨domain, terms⟩]).nodes.length ≤ limit.toNat :=
      length_nodes_walk_le
    simp only [Walk.chain, Walk.nodesFrom, List.length_cons]
    omega
  limitExceeded_iff h := by
    simp only [Walk.chain, isOverBudget_iff_lt_charged]
    omega

/-- The expansion of a record keeps within its limit. -/
theorem Chain.within_of_evaluate {seconds : τ} {domain raw : Text} {records : List Text} {c : Chain}
    (h : (evaluate z ⟨limit, seconds⟩ deadline now domain records raw).outcome = .ok c) :
    c.Within limit := by
  obtain ⟨root, -, -, rfl⟩ := evaluate_outcome_iff.1 h
  exact within_chain_walk records root

/-- The expansion of a record makes no more lookups than it is allowed. -/
theorem Chain.length_queries_evaluate_le (z : Zone τ) (l : Limits τ) (deadline now : τ)
    (domain raw : Text) (records : List Text) :
    (evaluate z l deadline now domain records raw).queries.length ≤ l.lookups.most.toNat := by
  unfold evaluate
  split
  · exact Nat.zero_le _
  · exact length_queries_walk_le

/-- After the lookup of a domain's own records, no more lookups are made than allowed. -/
theorem Chain.length_queries_ofAnswer_le (z : Zone τ) (l : Limits τ) (deadline now : τ)
    (domain : Text) (a : Answer) :
    (ofAnswer z l deadline now domain a).queries.length ≤ l.lookups.most.toNat := by
  cases a with
  | texts texts =>
    cases hs : selectSpfRecords texts with
    | nil => simp [ofAnswer, ofTexts, hs]
    | cons raw others =>
      rw [ofAnswer, (ofTexts_of_select z l deadline now domain hs).2]
      exact length_queries_evaluate_le z l deadline now domain raw _
  | _ => simp [ofAnswer, unfetched]

/-- On every zone, resolving a domain and previewing a record come to their end: from every state
the evaluation under the counter has one end, that of the walk. The limit bounds the lookups that
are made, and what is returned keeps within it. -/
theorem resolution_within_limit (z : Zone τ) (limit : Int) (seconds now : τ) (domain raw : Text) :
    (∀ (deadline start : τ) (frames : List Frame) (w : Walk τ),
      Runs z deadline limit 0 start frames w ↔ w = walk z deadline limit.toNat start frames) ∧
    (Chain.resolve z ⟨limit, seconds⟩ now domain).queries.length ≤ max limit 0 + 1 ∧
    (Chain.preview z ⟨limit, seconds⟩ now domain raw).queries.length ≤ max limit 0 ∧
    (∀ c, (Chain.resolve z ⟨limit, seconds⟩ now domain).outcome = .ok c → c.Within limit) ∧
    (∀ c, (Chain.preview z ⟨limit, seconds⟩ now domain raw).outcome = .ok c → c.Within limit) := by
  refine ⟨fun deadline start frames w => ?_, ?_, ?_, fun c h => ?_, fun c h => ?_⟩
  · rw [runs_iff_eq_walk, Int.sub_zero]
  · -- One lookup for the records of the domain itself, and then those of the walk.
    have := Chain.length_queries_ofAnswer_le z ⟨limit, seconds⟩ (now + seconds)
      (now + z.delay (normalizeDomain domain)) (normalizeDomain domain)
      (z.answer (normalizeDomain domain))
    simp only [LookupLimit.most] at this
    simp only [Chain.resolve, List.length_cons]
    omega
  · have := Chain.length_queries_evaluate_le z ⟨limit, seconds⟩ (now + seconds) now
      (normalizeDomain domain) raw [raw]
    simp only [LookupLimit.most] at this
    simp only [Chain.preview]
    omega
  · rcases Chain.resolve_outcome_cases h with ⟨-, hc⟩ | ⟨_, _, _, -, -, he⟩
    · rw [hc]
      exact Chain.within_ofDomain _ _ limit
    · exact Chain.within_of_evaluate he
  · exact Chain.within_of_evaluate h

end Timing

/-- A zone in which every domain refers to a longer one. -/
def endlessZone : Zone Rat where
  answer domain := .texts ["v=spf1 include:x" ++ domain]
  delay _ := 0

/-- A limit of two lookups ends the evaluation in a zone that never ends: three lookups are charged
and three domains met. -/
theorem endlessZone_within_limit :
    ∃ c, (Chain.resolve endlessZone ⟨(2 : Int), 5⟩ 0 ("a" : Text)).outcome = .ok c ∧
      c.lookups = 3 ∧ c.nodes.map Node.depth = [0, 1, 2] ∧ c.Within 2 := by
  obtain ⟨c, hc, hfound⟩ : ∃ c,
      (Chain.resolve endlessZone ⟨(2 : Int), 5⟩ 0 ("a" : Text)).outcome = .ok c ∧
        (c.lookups, c.nodes.map Node.depth) = (3, [0, 1, 2]) :=
    exists_ok_of_map_toOption (fun c : Chain => (c.lookups, c.nodes.map Node.depth))
      (by decide +kernel)
  obtain ⟨hlookups, hdepths⟩ := Prod.mk.inj hfound
  exact ⟨c, hc, hlookups, hdepths, (resolution_within_limit endlessZone 2 5 0 "a" []).2.2.2.1 c hc⟩

end SenderPolicy
