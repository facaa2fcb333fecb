import SenderPolicy.Proofs.Chain.Reordering
import SenderPolicy.Proofs.Report.Verdict

/-!
# The verdict does not depend on the order of terms

`verdict_of_reordered` compares the reports on a domain in two zones that differ only in the order
of the tokens of their SPF records. If the limit is not exceeded in one of them, the walk there
evaluated every term, and the walk in the other one found the same in another order
(`walk_of_reordered`). By symmetry the limit is exceeded in both or in neither, and then both are
charged the same (`foundAlike_chain_walk`). What the verdict asks of a chain is the same of both
(`Chain.FoundAlike.isValid_eq`).
-/

namespace SenderPolicy

/-- Two chains that found the same in another order, or both exceeded the limit. -/
structure Chain.FoundAlike (c c' : Chain) : Prop where
  /-- The same number of lookups was charged. -/
  lookups_eq : c.lookups = c'.lookups
  /-- The limit was exceeded in both or in neither. -/
  limitExceeded_eq : c.limitExceeded = c'.limitExceeded
  /-- The nodes are the same by domain, depth and the reference that leads to them. -/
  nodes : c.limitExceeded = false → (c.nodes.map fun n => (n.domain, n.depth, n.via)).Perm
    (c'.nodes.map fun n => (n.domain, n.depth, n.via))
  /-- The loops are the same. -/
  cycles : c.limitExceeded = false → c.cycles.Perm c'.cycles
  /-- The failures are the same by domain and kind. -/
  failures : c.limitExceeded = false → (c.failures.map fun f => (f.domain, f.kind)).Perm
    (c'.failures.map fun f => (f.domain, f.kind))

/-- Chains in which nothing was met found alike. -/
theorem Chain.foundAlike_ofDomain (domain : Text) (error error' : Option Text) :
    Chain.FoundAlike { ofDomain domain with rootError := error }
      { ofDomain domain with rootError := error' } :=
  ⟨rfl, rfl, fun _ => .nil, fun _ => .nil, fun _ => .nil⟩

/-- The verdict on chains that found alike is the same, if their roots are well formed alike, they
have as many records and the time sufficed. -/
theorem Chain.FoundAlike.isValid_eq {c c' : Chain} {root root' : Record} (h : c.FoundAlike c')
    (hroot : c.root = some root) (hroot' : c'.root = some root')
    (hwell : root.isWellFormed = root'.isWellFormed)
    (hrecords : c.spfRecords.length = c'.spfRecords.length) (htime : c.timedOut = false)
    (htime' : c'.timedOut = false) (limit : LookupLimit) (moment : Instant) :
    (c.report (c.issues limit) moment).isValid = (c'.report (c'.issues limit) moment).isValid := by
  have hexceeds : c.exceeds limit = c'.exceeds limit := by
    rw [exceeds, exceeds, h.limitExceeded_eq, h.lookups_eq]
  rw [Bool.eq_iff_iff, isValid_report_iff hroot, isValid_report_iff hroot', hwell, hexceeds,
    hrecords, htime, htime']
  refine and_congr_right fun _ => and_congr_right fun hwithin => and_congr_right fun _ => ?_
  -- Within the limit the loops and the kinds of failures are the same.
  have hlimit : c.limitExceeded = false := by
    rw [← hexceeds, exceeds, Bool.or_eq_false_iff] at hwithin
    exact hwithin.1
  have hcycles : c.cycles = [] ↔ c'.cycles = [] := by
    rw [← List.perm_nil, ← List.perm_nil]
    exact ⟨(h.cycles hlimit).symm.trans, (h.cycles hlimit).trans⟩
  have hkinds : ∀ c : Chain, (∀ f ∈ c.failures, f.kind = .lookupFailed) ↔
      ∀ p ∈ c.failures.map fun f => (f.domain, f.kind), p.2 = .lookupFailed := by
    simp
  rw [hcycles, hkinds c, hkinds c']
  simp only [(h.failures hlimit).mem_iff]

/-- The failures of nodes, by domain and kind, are told by their outlines. -/
theorem map_filterMap_failure? {τ : Type} (z : Zone τ) (nodes : List Node) :
    (nodes.filterMap z.failure?).map (fun f => (f.domain, f.kind)) =
      (nodes.map z.outline).filterMap fun o => o.2.1.map (o.1.1, ·) := by
  rw [List.map_filterMap, List.filterMap_map]
  refine List.filterMap_congr fun n _ => ?_
  simp only [Function.comp_apply, Zone.outline]
  cases hf : z.failure? n with
  | none => rfl
  | some f =>
    simp only [Option.map_some, Zone.domain_of_failure? hf]

section Timing

variable {τ : Type} [Seconds τ] {z z' : Zone τ} {deadline now : τ} {budget : Nat}

/-- No time elapses in a zone either whose records are reordered. -/
theorem Zone.Reordered.timeless (h : z.Reordered z') (ht : z.Timeless deadline now) :
    z'.Timeless deadline now where
  add_delay domain := by
    rw [← h.delay]
    exact ht.add_delay domain
  remaining := ht.remaining

/-- Two walks from records that are reordered go over their budget or do not. -/
theorem isOverBudget_of_reordered {domain : Text} {terms terms' : List Term} (hz : z.Reordered z')
    (ht : z.Timeless deadline now) (hp : terms.Perm terms')
    (ha : (walk z deadline budget now [⟨domain, terms⟩]).ending.abort? = none)
    (ho : (walk z deadline budget now [⟨domain, terms⟩]).ending.isOverBudget = false) :
    (walk z' deadline budget now [⟨domain, terms'⟩]).ending.isOverBudget = false := by
  have hcompleted := Ending.eq_completed ha ho (ht.isOutOfTime_walk _ _)
  rw [(walk_of_reordered hz (hz.timeless ht) hp hcompleted).1]
  rfl

/-- What two walks from records that are reordered find is alike, if neither is aborted and no time
elapses. -/
theorem foundAlike_chain_walk {domain : Text} {root root' : Record} (records records' : List Text)
    (hz : z.Reordered z') (ht : z.Timeless deadline now) (hd : root.domain = domain)
    (hd' : root'.domain = domain) (hp : root.terms.Perm root'.terms)
    (ha : (walk z deadline budget now [⟨domain, root.terms⟩]).ending.abort? = none)
    (ha' : (walk z' deadline budget now [⟨domain, root'.terms⟩]).ending.abort? = none) :
    ((walk z deadline budget now [⟨domain, root.terms⟩]).chain records root).FoundAlike
      ((walk z' deadline budget now [⟨domain, root'.terms⟩]).chain records' root') := by
  have ht' := hz.timeless ht
  have hover := isOverBudget_of_reordered hz ht hp ha
  have hover' := isOverBudget_of_reordered hz.symm ht' hp.symm ha'
  have hfound := fun ho => walk_of_reordered hz ht' hp
    (Ending.eq_completed ha ho (ht.isOutOfTime_walk budget [⟨domain, root.terms⟩]))
  constructor
  · refine congrArg (fun n : Nat => (n : Int)) ?_
    cases ho : (walk z deadline budget now [⟨domain, root.terms⟩]).ending.isOverBudget with
    | false => exact (hfound ho).2.1
    | true =>
      -- Both went over the budget, so both are charged one lookup more than it.
      have ho' : (walk z' deadline budget now [⟨domain, root'.terms⟩]).ending.isOverBudget =
          true := by
        rw [← Bool.not_eq_false]
        intro hno
        rw [hover' hno] at ho
        cases ho
      rw [charged_of_isOverBudget ho, charged_of_isOverBudget ho']
  · show Ending.isOverBudget _ = Ending.isOverBudget _
    rw [Bool.eq_iff_iff, ← Bool.not_eq_false, ← Bool.not_eq_false]
    exact not_congr ⟨hover, hover'⟩
  · intro ho
    obtain ⟨-, -, houtlines, -⟩ := hfound ho
    have hplaces := houtlines.map Prod.fst
    rw [List.map_map, List.map_map] at hplaces
    simp only [Walk.chain, Walk.nodesFrom, List.map_cons, hd, hd']
    exact hplaces.cons _
  · intro ho
    exact (hfound ho).2.2.2
  · intro ho
    obtain ⟨-, -, houtlines, -⟩ := hfound ho
    simp only [Walk.chain, failures_walk, map_filterMap_failure?]
    exact houtlines.filterMap _

/-! ## Reports -/

omit [Seconds τ] in
/-- The records that a domain publishes are reordered one by one. -/
theorem Zone.Reordered.select {domain : Text} {texts texts' : List Text} (h : z.Reordered z')
    (ha : z.answer domain = .texts texts) (ha' : z'.answer domain = .texts texts') :
    List.Forall₂ Record.Reordered (selectSpfRecords texts) (selectSpfRecords texts') := by
  have hanswer := h.answer domain
  rw [ha, ha'] at hanswer
  cases hanswer with
  | texts htexts => exact forall₂_reordered_select htexts
  | same => exact List.forall₂_same.2 fun raw _ => .inl rfl

/-- The reports on a domain in two zones that differ only in the order of the tokens of their SPF
records tell the same verdict and the same number of lookups, if no time elapses and both are
returned. The chains found the same in another order, or both exceeded the limit. -/
theorem verdict_of_reordered (z z' : Zone τ) (hz : z.Reordered z') (v : Validator τ) (now : τ)
    (moment moment' : Instant) (domain : Text) (r r' : Report)
    (ht : z.Timeless (now + v.chain.seconds) now)
    (h : (v.validate z now moment domain).outcome = .ok r)
    (h' : (v.validate z' now moment' domain).outcome = .ok r') :
    ∃ c c', (Chain.resolve z v.chain now domain).outcome = .ok c ∧
      (Chain.resolve z' v.chain now domain).outcome = .ok c' ∧ c.FoundAlike c' ∧
      r.lookups = r'.lookups ∧ r.isWellFormed = r'.isWellFormed ∧ r.isValid = r'.isValid := by
  obtain ⟨c, hc, rfl⟩ := Traced.report_outcome_iff.1 h
  obtain ⟨c', hc', rfl⟩ := Traced.report_outcome_iff.1 h'
  refine ⟨c, c', hc, hc', ?_⟩
  rcases Chain.resolve_outcome_cases hc with ⟨hnone, hempty⟩ | ⟨texts, raw, others, ha, hs, he⟩
  · rcases Chain.resolve_outcome_cases hc' with ⟨-, hempty'⟩ | ⟨texts', raw', others', ha', hs', -⟩
    · rw [hempty, hempty']
      exact ⟨Chain.foundAlike_ofDomain _ _ _, rfl, rfl, rfl⟩
    · -- A record that one zone publishes is published by the other.
      obtain ⟨raw, hraw, -⟩ := hz.symm.published? (Zone.published?_of_select ha' hs')
      cases hnone.symm.trans hraw
  · rcases Chain.resolve_outcome_cases hc' with ⟨hnone', -⟩ | ⟨texts', raw', others', ha', hs', he'⟩
    · obtain ⟨raw', hraw', -⟩ := hz.published? (Zone.published?_of_select ha hs)
      cases hnone'.symm.trans hraw'
    · have hselect := hz.select ha ha'
      rw [hs, hs', List.forall₂_cons] at hselect
      obtain ⟨hraw, hothers⟩ := hselect
      -- No time elapses, so both walks begin when the domain was asked for.
      rw [ht.add_delay] at he
      rw [(hz.timeless ht).add_delay] at he'
      obtain ⟨root, hread, habort, rfl⟩ := Chain.evaluate_outcome_iff.1 he
      obtain ⟨root', hread', habort', rfl⟩ := Chain.evaluate_outcome_iff.1 he'
      -- The root is reordered as well.
      obtain ⟨root'', hread'', hterms, hwell⟩ := Record.read_of_reordered hraw hread
      obtain rfl : root'' = root' := Except.ok.inj (hread''.symm.trans hread')
      have halike := foundAlike_chain_walk (raw :: others) (raw' :: others') hz ht
        (Record.domain_of_read hread) (Record.domain_of_read hread') hterms habort habort'
      refine ⟨halike, halike.lookups_eq, ?_, ?_⟩
      · simpa [Chain.report, Walk.chain] using hwell
      · exact halike.isValid_eq rfl rfl hwell (by simp [Walk.chain, hothers.length_eq])
          (ht.isOutOfTime_walk _ _) ((hz.timeless ht).isOutOfTime_walk _ _) v.limit _

end Timing

/-- A zone in which a record refers to two others. -/
def orderedZone : Zone Rat where
  answer domain :=
    if domain = ("a" : Text) then .texts ["text", "v=spf1 include:b mx include:c -all"]
    else if domain = ("b" : Text) then .texts ["v=spf1 ptr include:c a -all"]
    else .texts ["v=spf1 a mx -all"]
  delay _ := 0

/-- The zone with the tokens of every record in another order. -/
def shuffledZone : Zone Rat where
  answer domain :=
    if domain = ("a" : Text) then .texts ["text", "v=spf1 -all include:c include:b mx"]
    else if domain = ("b" : Text) then .texts ["v=spf1 a -all ptr include:c"]
    else .texts ["v=spf1 mx -all a"]
  delay _ := 0

/-- The two zones differ only in the order of the tokens. -/
theorem orderedZone_reordered : orderedZone.Reordered shuffledZone where
  answer domain := by
    have htokens : ∀ raw raw' : Text, isSpfRecord raw = true → isSpfRecord raw' = true →
        (Record.tokens raw).Perm (Record.tokens raw') → Record.Reordered raw raw' :=
      fun _ _ hraw hraw' hp => .inr ⟨hraw, hraw', hp⟩
    unfold orderedZone shuffledZone
    simp only
    split
    · exact .texts (.cons (.inl rfl) (.cons (htokens _ _ (by decide +kernel) (by decide +kernel)
        (by decide +kernel)) .nil))
    · split
      · exact .texts (.cons (htokens _ _ (by decide +kernel) (by decide +kernel)
          (by decide +kernel)) .nil)
      · exact .texts (.cons (htokens _ _ (by decide +kernel) (by decide +kernel)
          (by decide +kernel)) .nil)
  delay _ := rfl

/-- Within a limit of ten lookups the record is valid in either order. -/
theorem shuffledZone_verdict :
    ∃ r r', ((Validator.ofLimits ⟨(10 : Int), 5⟩).validate orderedZone 0 ⟨2024, 1, 1, 0, 0, 0, 0⟩
        ("a" : Text)).outcome = .ok r ∧
      ((Validator.ofLimits ⟨(10 : Int), 5⟩).validate shuffledZone 0 ⟨2024, 1, 1, 0, 0, 0, 0⟩
        ("a" : Text)).outcome = .ok r' ∧
      r.isValid = true ∧ r'.isValid = true ∧ r'.lookups = 10 := by
  obtain ⟨r, hr, hfound⟩ : ∃ r, ((Validator.ofLimits ⟨(10 : Int), 5⟩).validate orderedZone 0
      ⟨2024, 1, 1, 0, 0, 0, 0⟩ ("a" : Text)).outcome = .ok r ∧
        (r.isValid, r.lookups) = (true, 10) :=
    exists_ok_of_map_toOption (fun r : Report => (r.isValid, r.lookups)) (by decide +kernel)
  obtain ⟨r', hr', -⟩ : ∃ r', ((Validator.ofLimits ⟨(10 : Int), 5⟩).validate shuffledZone 0
      ⟨2024, 1, 1, 0, 0, 0, 0⟩ ("a" : Text)).outcome = .ok r' ∧ r'.hasHardFail = true :=
    exists_ok_of_map_toOption Report.hasHardFail (by decide +kernel)
  obtain ⟨hvalid, hlookups⟩ := Prod.mk.inj hfound
  have ht : orderedZone.Timeless (0 + 5) 0 :=
    Zone.timeless_of_delay_eq_zero (fun _ => rfl) (by decide)
  obtain ⟨c, c', -, -, -, hsame, -, hverdict⟩ :=
    verdict_of_reordered orderedZone shuffledZone orderedZone_reordered
      (.ofLimits ⟨(10 : Int), 5⟩) 0 _ _ ("a" : Text) r r' ht hr hr'
  exact ⟨r, r', hr, hr', hvalid, hverdict ▸ hvalid, hsame ▸ hlookups⟩

end SenderPolicy
