import SenderPolicy.Proofs.Chain.Loops
import SenderPolicy.Proofs.Chain.Reordering
import SenderPolicy.Proofs.Record.Tokens

/-!
# Sibling branches are independent

All branches of a walk share one stack, one budget and one clock. Yet what is found at the terms of
a record falls into what is found at the first of them and what is found at the others, and neither
depends on the other: an exploration goes by the terms and by the domains of the records around
them, and a branch leaves these as it found them (`explores_append_iff`). The budget is the only
thing by which one branch can cut off another. `charged_walk_append` is the balance of three walks,
over all terms and over each of the two parts, and `siblings_independent` says what it means for
records that are previewed.
-/

namespace SenderPolicy

/-! ## Walks over terms in two parts -/

section Timing

variable {τ : Type} [Seconds τ] {z : Zone τ} {deadline now : τ} {budget : Nat} {domain : Text}
  {terms terms' : List Term}

/-- A term that is charged nothing is skipped. -/
theorem walk_skip {t : Term} {outer : List Frame} (hc : t.isChargeable = false) :
    walk z deadline budget now (⟨domain, t :: terms⟩ :: outer) =
      walk z deadline budget now (⟨domain, terms⟩ :: outer) := by
  cases budget <;> simp only [walk, Due.next?_skip hc]

/-- If a walk over terms in two parts evaluated every term, then so do the walks over each part. It
found what the one finds and then what the other finds, and was charged for both. -/
theorem walk_of_append (ht : z.Timeless deadline now)
    (h : (walk z deadline budget now [⟨domain, terms ++ terms'⟩]).ending = .completed) :
    (walk z deadline budget now [⟨domain, terms⟩]).ending = .completed ∧
      (walk z deadline budget now [⟨domain, terms'⟩]).ending = .completed ∧
      (walk z deadline budget now [⟨domain, terms ++ terms'⟩]).nodes =
        (walk z deadline budget now [⟨domain, terms⟩]).nodes ++
          (walk z deadline budget now [⟨domain, terms'⟩]).nodes ∧
      (walk z deadline budget now [⟨domain, terms ++ terms'⟩]).cycles =
        (walk z deadline budget now [⟨domain, terms⟩]).cycles ++
          (walk z deadline budget now [⟨domain, terms'⟩]).cycles ∧
      (walk z deadline budget now [⟨domain, terms ++ terms'⟩]).charged =
        (walk z deadline budget now [⟨domain, terms⟩]).charged +
          (walk z deadline budget now [⟨domain, terms'⟩]).charged := by
  have hdescribed : ∀ n ∈ (walk z deadline budget now [⟨domain, terms ++ terms'⟩]).nodes,
      z.Describes n := fun n hn => describes_of_mem_nodes_walk hn
  have hcharged := charged_of_completed h
  have hbudget : (walk z deadline budget now [⟨domain, terms ++ terms'⟩]).charged ≤ budget :=
    charged_le_of_not_isOverBudget (by rw [h]; rfl)
  obtain ⟨nodes₁, nodes₂, cycles₁, cycles₂, h₁, h₂, hnodes, hcycles⟩ :=
    explores_append_iff.1 (explores_walk h)
  rw [hnodes] at hdescribed hcharged
  rw [List.countP_append, List.flatMap_append, List.countP_append] at hcharged
  -- What each part costs is within the budget, as what both cost is.
  have hwithin₁ : terms.countP Term.isChargeable +
      (nodes₁.flatMap Node.terms).countP Term.isChargeable ≤ budget := by omega
  have hwithin₂ : terms'.countP Term.isChargeable +
      (nodes₂.flatMap Node.terms).countP Term.isChargeable ≤ budget := by omega
  obtain ⟨hending₁, hnodes₁, hcycles₁⟩ := walk_of_explores ht h₁
    (fun n hn => hdescribed n (List.mem_append_left _ hn)) hwithin₁
  obtain ⟨hending₂, hnodes₂, hcycles₂⟩ := walk_of_explores ht h₂
    (fun n hn => hdescribed n (List.mem_append_right _ hn)) hwithin₂
  refine ⟨hending₁, hending₂, ?_, ?_, ?_⟩
  · rw [hnodes, hnodes₁, hnodes₂]
  · rw [hcycles, hcycles₁, hcycles₂]
  · rw [hcharged, charged_of_completed hending₁, charged_of_completed hending₂, hnodes₁, hnodes₂]
    omega

/-- If the walks over each of two parts evaluated every term, then so does the walk over both, as
far as the budget goes. -/
theorem walk_append (ht : z.Timeless deadline now)
    (h : (walk z deadline budget now [⟨domain, terms⟩]).ending = .completed)
    (h' : (walk z deadline budget now [⟨domain, terms'⟩]).ending = .completed)
    (hb : (walk z deadline budget now [⟨domain, terms⟩]).charged +
      (walk z deadline budget now [⟨domain, terms'⟩]).charged ≤ budget) :
    (walk z deadline budget now [⟨domain, terms ++ terms'⟩]).ending = .completed := by
  have hexplored := explores_append_iff.2
    ⟨_, _, _, _, explores_walk h, explores_walk h', rfl, rfl⟩
  refine (walk_of_explores ht hexplored (fun n hn => ?_) ?_).1
  · rcases List.mem_append.1 hn with hn | hn
    · exact describes_of_mem_nodes_walk hn
    · exact describes_of_mem_nodes_walk hn
  · rw [charged_of_completed h, charged_of_completed h'] at hb
    rw [List.countP_append, List.flatMap_append, List.countP_append]
    omega

/-- A walk over terms in two parts is charged what the walks over each of them are charged, or one
lookup more than allowed if that is more. -/
theorem charged_walk_append (ht : z.Timeless deadline now)
    (ha : (walk z deadline budget now [⟨domain, terms ++ terms'⟩]).ending.abort? = none)
    (ha₁ : (walk z deadline budget now [⟨domain, terms⟩]).ending.abort? = none)
    (ha₂ : (walk z deadline budget now [⟨domain, terms'⟩]).ending.abort? = none) :
    (walk z deadline budget now [⟨domain, terms ++ terms'⟩]).charged =
      min ((walk z deadline budget now [⟨domain, terms⟩]).charged +
        (walk z deadline budget now [⟨domain, terms'⟩]).charged) (budget + 1) := by
  have hcompleted : ∀ {terms : List Term},
      (walk z deadline budget now [⟨domain, terms⟩]).ending.abort? = none →
      (walk z deadline budget now [⟨domain, terms⟩]).ending.isOverBudget = false →
      (walk z deadline budget now [⟨domain, terms⟩]).ending = .completed :=
    fun ha ho => Ending.eq_completed ha ho (ht.isOutOfTime_walk _ _)
  cases ho : (walk z deadline budget now [⟨domain, terms ++ terms'⟩]).ending.isOverBudget with
  | false =>
    obtain ⟨-, -, -, -, hsum⟩ := walk_of_append ht (hcompleted ha ho)
    have hle := charged_le_of_not_isOverBudget ho
    omega
  | true =>
    have hcharged := charged_of_isOverBudget ho
    -- Otherwise both parts are evaluated to the end within the budget, and then so are all terms.
    have hover : budget < (walk z deadline budget now [⟨domain, terms⟩]).charged +
        (walk z deadline budget now [⟨domain, terms'⟩]).charged := by
      by_contra hle
      have hwithin : ∀ {terms : List Term},
          (walk z deadline budget now [⟨domain, terms⟩]).charged ≤ budget →
          (walk z deadline budget now [⟨domain, terms⟩]).ending.isOverBudget = false := by
        intro terms hle
        rw [← Bool.not_eq_true, isOverBudget_iff_lt_charged]
        omega
      have hall := walk_append ht (hcompleted ha₁ (hwithin (by omega)))
        (hcompleted ha₂ (hwithin (by omega))) (by omega)
      rw [hall] at ho
      cases ho
    omega

/-! ## Records that are previewed -/

/-- What the preview of a record with tokens returns is what the walk through the terms of the
tokens found. -/
theorem Chain.exists_walk_of_preview {limit : Nat} {seconds : τ} {tokens : List Text} {c : Chain}
    (hw : ∀ w ∈ tokens, Text.IsWord w)
    (h : (preview z ⟨(limit : Int), seconds⟩ now domain
      (Record.withTokens tokens)).outcome = .ok c) :
    ∃ root w, w = walk z (now + seconds) limit now
          [⟨normalizeDomain domain, tokens.filterMap fun token => (Term.read token).toOption⟩] ∧
      w.ending.abort? = none ∧ w.chain [Record.withTokens tokens] root = c ∧
      (preview z ⟨(limit : Int), seconds⟩ now domain (Record.withTokens tokens)).queries =
        w.queries := by
  obtain ⟨root, hread, habort, hchain⟩ := evaluate_outcome_iff.1 h
  have hqueries : (preview z ⟨(limit : Int), seconds⟩ now domain
      (Record.withTokens tokens)).queries =
        (walk z (now + seconds) limit now [⟨normalizeDomain domain, root.terms⟩]).queries :=
    queries_evaluate hread
  rw [Record.terms_of_read_withTokens hw hread, walk_skip rfl] at habort hchain hqueries
  exact ⟨root, _, rfl, habort, hchain, hqueries⟩

/-- If no time elapses, the preview of a record with the tokens of two records is charged what the
previews of the two are charged, or one lookup more than allowed. If the limit is not exceeded, it
meets the domains, finds the loops and the failures and looks up the names of the one preview and
then those of the other. -/
theorem siblings_independent (z : Zone τ) (limit : Nat) (seconds now : τ) (domain : Text)
    (tokens tokens' : List Text) (c c₁ c₂ : Chain) (ht : z.Timeless (now + seconds) now)
    (hw : ∀ w ∈ tokens ++ tokens', Text.IsWord w)
    (h : (Chain.preview z ⟨(limit : Int), seconds⟩ now domain
      (Record.withTokens (tokens ++ tokens'))).outcome = .ok c)
    (h₁ : (Chain.preview z ⟨(limit : Int), seconds⟩ now domain
      (Record.withTokens tokens)).outcome = .ok c₁)
    (h₂ : (Chain.preview z ⟨(limit : Int), seconds⟩ now domain
      (Record.withTokens tokens')).outcome = .ok c₂) :
    c.lookups = min (c₁.lookups + c₂.lookups) (limit + 1) ∧
      (c.limitExceeded = false →
        c.nodes.tail = c₁.nodes.tail ++ c₂.nodes.tail ∧ c.cycles = c₁.cycles ++ c₂.cycles ∧
        c.failures = c₁.failures ++ c₂.failures ∧
        (Chain.preview z ⟨(limit : Int), seconds⟩ now domain
            (Record.withTokens (tokens ++ tokens'))).queries.map Query.domain =
          (Chain.preview z ⟨(limit : Int), seconds⟩ now domain
              (Record.withTokens tokens)).queries.map Query.domain ++
            (Chain.preview z ⟨(limit : Int), seconds⟩ now domain
              (Record.withTokens tokens')).queries.map Query.domain) := by
  obtain ⟨root, w, rfl, ha, rfl, hqueries⟩ := Chain.exists_walk_of_preview hw h
  obtain ⟨root₁, w₁, rfl, ha₁, rfl, hqueries₁⟩ :=
    Chain.exists_walk_of_preview (fun w hmem => hw w (List.mem_append_left _ hmem)) h₁
  obtain ⟨root₂, w₂, rfl, ha₂, rfl, hqueries₂⟩ :=
    Chain.exists_walk_of_preview (fun w hmem => hw w (List.mem_append_right _ hmem)) h₂
  rw [hqueries, hqueries₁, hqueries₂]
  rw [List.filterMap_append] at ha ⊢
  constructor
  · have hcharged := charged_walk_append ht ha ha₁ ha₂
    simp only [Walk.chain]
    omega
  · intro ho
    have hcompleted := Ending.eq_completed ha ho (ht.isOutOfTime_walk _ _)
    obtain ⟨hc₁, hc₂, hnodes, hcycles, -⟩ := walk_of_append ht hcompleted
    refine ⟨hnodes, hcycles, ?_, ?_⟩
    · simp only [Walk.chain, failures_walk, hnodes, List.filterMap_append]
    · rw [map_domain_queries_walk hcompleted, map_domain_queries_walk hc₁,
        map_domain_queries_walk hc₂, hnodes, List.map_append]

end Timing

/-- A zone in which one branch leads back to the root and to a domain that does not exist, and
another branch leads to the first. -/
def crossingZone : Zone Rat where
  answer domain :=
    if domain = ("b" : Text) then .texts ["v=spf1 include:a include:x -all"]
    else if domain = ("c" : Text) then .texts ["v=spf1 include:b mx -all"]
    else .notFound "no such domain"
  delay _ := 0

/-- The one branch is charged three lookups and the other five, and both of them eight. -/
theorem crossingZone_branches :
    ∃ c c₁ c₂,
      (Chain.preview crossingZone ⟨((10 : Nat) : Int), 5⟩ 0 ("a" : Text)
        (Record.withTokens (["include:b"] ++ ["include:c"]))).outcome = .ok c ∧
      (Chain.preview crossingZone ⟨((10 : Nat) : Int), 5⟩ 0 ("a" : Text)
        (Record.withTokens ["include:b"])).outcome = .ok c₁ ∧
      (Chain.preview crossingZone ⟨((10 : Nat) : Int), 5⟩ 0 ("a" : Text)
        (Record.withTokens ["include:c"])).outcome = .ok c₂ ∧
      c₁.lookups = 3 ∧ c₂.lookups = 5 ∧ c.lookups = 8 ∧ c.cycles = c₁.cycles ++ c₂.cycles := by
  obtain ⟨c, hc, hfound⟩ : ∃ c, (Chain.preview crossingZone ⟨((10 : Nat) : Int), 5⟩ 0 ("a" : Text)
      (Record.withTokens (["include:b"] ++ ["include:c"]))).outcome = .ok c ∧
        c.limitExceeded = false :=
    exists_ok_of_map_toOption Chain.limitExceeded (by decide +kernel)
  obtain ⟨c₁, hc₁, hlookups₁⟩ : ∃ c, (Chain.preview crossingZone ⟨((10 : Nat) : Int), 5⟩ 0
      ("a" : Text) (Record.withTokens ["include:b"])).outcome = .ok c ∧ c.lookups = 3 :=
    exists_ok_of_map_toOption Chain.lookups (by decide +kernel)
  obtain ⟨c₂, hc₂, hlookups₂⟩ : ∃ c, (Chain.preview crossingZone ⟨((10 : Nat) : Int), 5⟩ 0
      ("a" : Text) (Record.withTokens ["include:c"])).outcome = .ok c ∧ c.lookups = 5 :=
    exists_ok_of_map_toOption Chain.lookups (by decide +kernel)
  have htime : crossingZone.Timeless ((0 : Rat) + 5) 0 :=
    Zone.timeless_of_delay_eq_zero (fun _ => rfl) (by decide)
  have hwords : ∀ w ∈ [("include:b" : Text)] ++ [("include:c" : Text)], Text.IsWord w := by
    unfold Text.IsWord
    decide +kernel
  obtain ⟨hlookups, hjoined⟩ := siblings_independent crossingZone 10 5 0 ("a" : Text)
    ["include:b"] ["include:c"] c c₁ c₂ htime hwords hc hc₁ hc₂
  refine ⟨c, c₁, c₂, hc, hc₁, hc₂, hlookups₁, hlookups₂, ?_, (hjoined hfound).2.1⟩
  rw [hlookups, hlookups₁, hlookups₂]
  decide

end SenderPolicy
