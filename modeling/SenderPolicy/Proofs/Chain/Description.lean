import SenderPolicy.Proofs.Chain.Conservation
import SenderPolicy.Proofs.Chain.Cost
import SenderPolicy.Proofs.Chain.Exploration
import SenderPolicy.Proofs.Chain.Failures

/-!
# Explorations that a zone describes

An exploration names the records that it goes through, and need not come from a walk.
`Zone.Describes` says of its nodes one by one that a zone has them. Every walk meets nodes that its
zone describes (`describes_of_mem_nodes_walk`). `walk_of_exploresAll` is the converse: a walk finds
every exploration whose nodes the zone describes, if no time elapses and the terms that are charged
are within the budget.
-/

namespace SenderPolicy

section Timing

variable {τ : Type} [Seconds τ] {z : Zone τ} {deadline now : τ}

/-- A zone describes a node: its record is the first that its domain publishes, or its lookup is
refused and it has none. -/
structure Zone.Describes (z : Zone τ) (n : Node) : Prop where
  /-- The record of the node is published. -/
  record : ∀ r, n.record = some r → n.error = none ∧
    ∃ raw, z.published? n.domain = some raw ∧ Record.read raw n.domain = .ok r
  /-- A node without a record is refused. -/
  refusal : n.record = none → ∃ kind m, z.refusal? n.domain = some (kind, m) ∧ n.error = some m

omit [Seconds τ] in
/-- A node whose domain publishes a record has this record. -/
theorem Zone.Describes.of_published? {n : Node} {raw : Text} (hn : z.Describes n)
    (hp : z.published? n.domain = some raw) :
    ∃ r, Record.read raw n.domain = .ok r ∧ n.record = some r ∧ n.error = none := by
  cases hr : n.record with
  | some r =>
    obtain ⟨herror, raw', hp', hread⟩ := hn.record r hr
    cases hp.symm.trans hp'
    exact ⟨r, hread, rfl, herror⟩
  | none =>
    obtain ⟨kind, m, hrefused, -⟩ := hn.refusal hr
    cases hp.symm.trans (published?_of_refusal? hrefused)

omit [Seconds τ] in
/-- A node whose domain is refused has no record. -/
theorem Zone.Describes.of_refusal? {n : Node} {kind : FailureKind} {m : Text} (hn : z.Describes n)
    (hrefused : z.refusal? n.domain = some (kind, m)) : n.record = none ∧ n.error = some m := by
  cases hr : n.record with
  | some r =>
    obtain ⟨-, raw, hp, -⟩ := hn.record r hr
    cases hp.symm.trans (published?_of_refusal? hrefused)
  | none =>
    obtain ⟨kind', m', hrefused', herror⟩ := hn.refusal hr
    cases hrefused.symm.trans hrefused'
    exact ⟨rfl, herror⟩

omit [Seconds τ] in
/-- No node is described whose lookup the source fails. -/
theorem Zone.Describes.answer_ne_broken {n : Node} (hn : z.Describes n) (m : Text) :
    z.answer n.domain ≠ .broken m := by
  intro hbroken
  cases hr : n.record with
  | some r =>
    obtain ⟨-, raw, hp, -⟩ := hn.record r hr
    simp [published?, hbroken] at hp
  | none =>
    obtain ⟨kind, m, hrefused, -⟩ := hn.refusal hr
    simp [refusal?, hbroken] at hrefused

/-- A zone describes the domains that its steps meet. -/
theorem Due.Steps.describes {d : Due} {s : Step τ} {n : Node} (h : d.Steps z deadline now s)
    (hn : s.node? = some n) : z.Describes n where
  record r hr := by
    cases h with
    | charged | loop => cases hn
    | unusable => cases hn; cases hr
    | entered ht hp htime hz hread =>
      cases hn
      cases hr
      exact ⟨rfl, _, hz, hread⟩
  refusal hr := h.error_node hn hr

/-- A zone describes the domains that a walk meets in it. -/
theorem describes_of_mem_nodes_walk {budget : Nat} {frames : List Frame} {n : Node}
    (hn : n ∈ (walk z deadline budget now frames).nodes) : z.Describes n := by
  obtain ⟨s, hs, hnode⟩ := List.mem_filterMap.1 hn
  have hsteps : ∀ s ∈ (walk z deadline budget now frames).steps, ∀ n, s.node? = some n →
      z.Describes n :=
    forall_mem_steps_walk (fun _ _ _ h _ => h.describes) budget now frames
  exact hsteps s hs n hnode

/-- Of an exploration that the zone describes, a step finds what comes first. -/
theorem Due.Steps.of_exploresAll {d : Due} {s : Step τ} {nodes : List Node}
    {cycles : List (Text × Text)} (h : d.Steps z deadline now s)
    (he : ExploresAll d.frames nodes cycles) (hz : ∀ n ∈ nodes, z.Describes n) :
    ∃ nodes' cycles', nodes = s.node?.toList ++ nodes' ∧ cycles = s.cycle?.toList ++ cycles' ∧
      ExploresAll (s.opened ++ d.rest) nodes' cycles' := by
  cases h with
  | charged ht =>
    exact ⟨nodes, cycles, rfl, rfl, (exploresAll_skip (Term.target?_eq_none_iff.1 ht)).1 he⟩
  | loop ht hp =>
    obtain ⟨cycles', rfl, hrest⟩ := (exploresAll_loop (Term.target?_eq_some_iff.1 ht) hp).1 he
    exact ⟨nodes, cycles', rfl, rfl, hrest⟩
  | unusable ht hp htime hrefused hl =>
    obtain ⟨⟨domain, record, depth, via, error⟩, nodes', rfl, rfl, rfl, hrest, rfl⟩ :=
      (exploresAll_node (Term.target?_eq_some_iff.1 ht) hp).1 he
    obtain ⟨rfl, rfl⟩ := (hz _ List.mem_cons_self).of_refusal? hrefused
    exact ⟨nodes', cycles, rfl, rfl, exploresAll_close.1 hrest⟩
  | entered ht hp htime hpub hread =>
    obtain ⟨⟨domain, record, depth, via, error⟩, nodes', rfl, rfl, rfl, hrest, rfl⟩ :=
      (exploresAll_node (Term.target?_eq_some_iff.1 ht) hp).1 he
    obtain ⟨r, hread', rfl, rfl⟩ := (hz _ List.mem_cons_self).of_published? hpub
    cases hread.symm.trans hread'
    exact ⟨nodes', cycles, rfl, rfl, hrest⟩

/-- No exploration that the zone describes goes through a term that ends the walk, if no time
elapses. -/
theorem Due.Halts.not_exploresAll {d : Due} {e : Ending τ} {nodes : List Node}
    {cycles : List (Text × Text)} (h : d.Halts z deadline now e) (ht : z.Timeless deadline now)
    (hz : ∀ n ∈ nodes, z.Describes n) : ¬ ExploresAll d.frames nodes cycles := by
  intro he
  have hnode : ∀ {link target}, d.term.target? = some (link, target) → target ∉ d.path →
      ∃ n ∈ nodes, n.domain = target := by
    intro link target href hp
    obtain ⟨n, nodes', hdomain, -, -, -, rfl⟩ :=
      (exploresAll_node (Term.target?_eq_some_iff.1 href) hp).1 he
    exact ⟨n, List.mem_cons_self, hdomain⟩
  cases h with
  | overdue _ _ htime => exact ht.remaining htime
  | late _ _ _ _ hl => exact ht.remaining (by rwa [ht.add_delay] at hl)
  | unreadable href hp _ hpub hread =>
    obtain ⟨n, hn, rfl⟩ := hnode href hp
    obtain ⟨r, hread', -⟩ := (hz n hn).of_published? hpub
    cases hread.symm.trans hread'
  | broken href hp _ hbroken =>
    obtain ⟨n, hn, rfl⟩ := hnode href hp
    exact (hz n hn).answer_ne_broken _ hbroken

/-- If no time elapses, a walk finds every exploration that the zone describes and whose terms do
not cost more lookups than allowed. -/
theorem walk_of_exploresAll {budget : Nat} {frames : List Frame} (ht : z.Timeless deadline now) :
    ∀ nodes cycles, ExploresAll frames nodes cycles → (∀ n ∈ nodes, z.Describes n) →
      (pendingTerms frames).countP Term.isChargeable +
        (nodes.flatMap Node.terms).countP Term.isChargeable ≤ budget →
      (walk z deadline budget now frames).ending = .completed ∧
        (walk z deadline budget now frames).nodes = nodes ∧
        (walk z deadline budget now frames).cycles = cycles := by
  fun_induction walk z deadline budget now frames with
  | case1 now frames hd | case3 budget now frames hd =>
    intro nodes cycles he _ _
    obtain ⟨rfl, rfl⟩ := (Due.exploresAll_iff_of_eq_none hd).1 he
    exact ⟨rfl, rfl, rfl⟩
  | case2 now frames d hd =>
    -- The term that is due costs a lookup, and none is allowed.
    intro nodes cycles _ _ hb
    rw [Due.countP_pending (fun _ h => h) hd, if_pos (Due.isChargeable_of_next? hd)] at hb
    omega
  | case4 budget now frames d hd e he =>
    intro nodes cycles hexplored hz _
    exact absurd ((Due.exploresAll_iff hd).1 hexplored)
      ((attempt_eq_halted_iff.1 he).not_exploresAll ht hz)
  | case5 budget now frames d hd s hs w ih =>
    intro nodes cycles he hz hb
    have hstep := attempt_eq_stepped_iff.1 hs
    obtain ⟨nodes', cycles', rfl, rfl, hrest⟩ :=
      hstep.of_exploresAll ((Due.exploresAll_iff hd).1 he) hz
    rw [Due.countP_pending (fun _ h => h) hd, if_pos (Due.isChargeable_of_next? hd),
      List.flatMap_append, List.countP_append, hstep.terms_node] at hb
    have hopen : (pendingTerms (s.opened ++ d.rest)).countP Term.isChargeable =
        (pendingTerms s.opened).countP Term.isChargeable +
          (pendingTerms d.rest).countP Term.isChargeable := by
      rw [pendingTerms, List.flatMap_append, List.countP_append]
      rfl
    obtain ⟨hending, hnodes, hcycles⟩ := ih (by rwa [ht.doneAt_eq]) nodes' cycles' hrest
      (fun n hn => hz n (List.mem_append_right _ hn)) (by omega)
    rw [Walk.nodes_cons, Walk.cycles_cons]
    exact ⟨hending, congrArg _ hnodes, congrArg _ hcycles⟩

/-- If no time elapses, a walk from a record finds every exploration of the record that the zone
describes and that is within the budget. -/
theorem walk_of_explores {budget : Nat} {domain : Text} {terms : List Term} {nodes : List Node}
    {cycles : List (Text × Text)} (ht : z.Timeless deadline now)
    (he : Explores domain [] terms nodes cycles) (hz : ∀ n ∈ nodes, z.Describes n)
    (hb : terms.countP Term.isChargeable +
      (nodes.flatMap Node.terms).countP Term.isChargeable ≤ budget) :
    (walk z deadline budget now [⟨domain, terms⟩]).ending = .completed ∧
      (walk z deadline budget now [⟨domain, terms⟩]).nodes = nodes ∧
      (walk z deadline budget now [⟨domain, terms⟩]).cycles = cycles := by
  have hall : ExploresAll [⟨domain, terms⟩] nodes cycles :=
    ⟨nodes, [], cycles, [], he, ⟨rfl, rfl⟩, by simp, by simp⟩
  refine walk_of_exploresAll ht nodes cycles hall hz ?_
  have hpending : pendingTerms [⟨domain, terms⟩] = terms := by simp [pendingTerms]
  rw [hpending]
  exact hb

end Timing

end SenderPolicy
