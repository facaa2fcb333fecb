import Mathlib.Data.List.Forall2
import SenderPolicy.Proofs.Chain.Description
import SenderPolicy.Proofs.Record.Reordering

/-!
# Explorations whose terms are reordered

Two walks over the same records in another order meet the same domains in another order, and if they
are halted, they are halted at different places. So they are not compared step by step. An
exploration is compared instead: its terms may be put in another order (`Explores.of_perm`), since
what is found at one term does not depend on the others, and the records of its nodes may be
reordered one by one (`Explores.of_reordered`). `walk_of_reordered` takes this back to walks: if one
of them evaluated every term, so did the other, and they found the same.
-/

namespace SenderPolicy

/-! ## Zones whose records are reordered -/

/-- An answer that is the same, or whose texts are reordered one by one. -/
inductive Answer.Reordered : Answer → Answer → Prop
  /-- Every text is reordered by itself. -/
  | texts {texts texts' : List Text} (h : List.Forall₂ Record.Reordered texts texts') :
      Reordered (.texts texts) (.texts texts')
  /-- The answer is the same. -/
  | same (a : Answer) : Reordered a a

/-- Zones that differ only in the order of the tokens of their SPF records. -/
structure Zone.Reordered {τ : Type} (z z' : Zone τ) : Prop where
  /-- The answers differ only so. -/
  answer : ∀ domain, (z.answer domain).Reordered (z'.answer domain)
  /-- The answers take the same time. -/
  delay : ∀ domain, z.delay domain = z'.delay domain

/-- Reordering can be undone. -/
theorem Answer.Reordered.symm {a a' : Answer} (h : a.Reordered a') : a'.Reordered a := by
  cases h with
  | same => exact .same a
  | texts h => exact .texts (h.flip.imp fun _ _ hr => Record.Reordered.symm hr)

/-- A reordered text is selected if it was before. -/
theorem forall₂_reordered_select {texts texts' : List Text}
    (h : List.Forall₂ Record.Reordered texts texts') :
    List.Forall₂ Record.Reordered (selectSpfRecords texts) (selectSpfRecords texts') := by
  induction h with
  | nil => exact .nil
  | @cons raw raw' texts texts' hraw _ ih =>
    have hspf := hraw.isSpfRecord_eq
    unfold selectSpfRecords at ih ⊢
    cases h : isSpfRecord raw with
    | true =>
      rw [List.filter_cons_of_pos h, List.filter_cons_of_pos (hspf ▸ h)]
      exact .cons hraw ih
    | false =>
      rw [List.filter_cons_of_neg (by simp [h]), List.filter_cons_of_neg (by simp [← hspf, h])]
      exact ih

namespace Zone.Reordered

variable {τ : Type} {z z' : Zone τ} {domain : Text}

/-- Reordering can be undone. -/
theorem symm (h : z.Reordered z') : z'.Reordered z where
  answer domain := (h.answer domain).symm
  delay domain := (h.delay domain).symm

/-- A domain publishes its record reordered. -/
theorem published? (h : z.Reordered z') {raw : Text} (hz : z.published? domain = some raw) :
    ∃ raw', z'.published? domain = some raw' ∧ Record.Reordered raw raw' := by
  have hanswer := h.answer domain
  unfold Zone.published? at hz ⊢
  generalize z.answer domain = a at hanswer hz
  generalize z'.answer domain = a' at hanswer ⊢
  cases hanswer with
  | same => exact ⟨raw, hz, .inl rfl⟩
  | @texts texts texts' htexts =>
    have hselect := forall₂_reordered_select htexts
    simp only at hz ⊢
    generalize selectSpfRecords texts = records at hz hselect
    generalize selectSpfRecords texts' = records' at hselect ⊢
    cases hselect with
    | nil => cases hz
    | cons hraw =>
      cases hz
      exact ⟨_, rfl, hraw⟩

/-- A domain is refused for the same reason. -/
theorem refusal?_eq (h : z.Reordered z') : z.refusal? domain = z'.refusal? domain := by
  have hanswer := h.answer domain
  unfold Zone.refusal?
  generalize z.answer domain = a at hanswer ⊢
  generalize z'.answer domain = a' at hanswer ⊢
  cases hanswer with
  | same => rfl
  | @texts texts texts' htexts =>
    have hselect := forall₂_reordered_select htexts
    simp only
    generalize selectSpfRecords texts = records at hselect ⊢
    generalize selectSpfRecords texts' = records' at hselect ⊢
    cases hselect <;> rfl

end Zone.Reordered

/-! ## Nodes whose records are reordered -/

/-- What of a node does not depend on the order of its terms: where it stands, why it failed in its
zone if it did, and how many terms are charged. -/
def Zone.outline {τ : Type} (z : Zone τ) (n : Node) :
    (Text × Nat × Option Link) × Option FailureKind × Nat :=
  ((n.domain, n.depth, n.via), (z.failure? n).map Failure.kind,
    n.terms.countP Term.isChargeable)

/-- The terms of nodes that are charged are as many as their outlines tell. -/
theorem countP_flatMap_terms {τ : Type} (z : Zone τ) (nodes : List Node) :
    (nodes.flatMap Node.terms).countP Term.isChargeable =
      ((nodes.map z.outline).map fun o => o.2.2).sum := by
  rw [List.countP_flatMap, List.map_map]
  rfl

/-- A node has the same outline with its record reordered, and its terms in another order. -/
theorem Zone.Reordered.exists_describes {τ : Type} {z z' : Zone τ} (h : z.Reordered z') {n : Node}
    (hn : z.Describes n) : ∃ n', z'.Describes n' ∧ n.terms.Perm n'.terms ∧
      z.outline n = z'.outline n' := by
  obtain ⟨domain, record, depth, via, error⟩ := n
  cases record with
  | none =>
    obtain ⟨kind, m, hrefused, rfl⟩ := hn.refusal rfl
    have hsame : z.refusal? domain = z'.refusal? domain := h.refusal?_eq
    refine ⟨⟨domain, none, depth, via, some m⟩, ⟨fun r hr => ?_, fun _ => ⟨kind, m, ?_, rfl⟩⟩,
      .refl _, ?_⟩
    · cases hr
    · exact hsame.symm.trans hrefused
    · simp only [outline, failure?, hsame]
  | some r =>
    obtain ⟨rfl, raw, hpub, hread⟩ := hn.record r rfl
    obtain ⟨raw', hpub', hraw⟩ := h.published? hpub
    obtain ⟨r', hread', hterms, hwell⟩ := Record.read_of_reordered hraw hread
    refine ⟨⟨domain, some r', depth, via, none⟩, ⟨fun r hr => ?_, fun hr => ?_⟩, hterms, ?_⟩
    · cases hr
      exact ⟨rfl, raw', hpub', hread'⟩
    · cases hr
    · have hcount : r.terms.countP Term.isChargeable = r'.terms.countP Term.isChargeable :=
        hterms.countP_eq _
      rw [outline, outline, z.map_kind_failure? rfl, z'.map_kind_failure? rfl, hwell]
      exact congrArg _ (congrArg _ hcount)

/-! ## Explorations whose terms are reordered -/

section Explores

variable {source : Text} {outer : List Text} {t : Term} {terms terms' : List Term}
  {nodes : List Node} {cycles : List (Text × Text)}

/-- Terms in another order are explored with the same nodes and loops in another order. -/
theorem Explores.of_perm (hp : terms.Perm terms') :
    ∀ nodes cycles, Explores source outer terms nodes cycles →
      ∃ nodes' cycles', Explores source outer terms' nodes' cycles' ∧ nodes.Perm nodes' ∧
        cycles.Perm cycles' := by
  induction hp with
  | nil => exact fun nodes cycles h => ⟨nodes, cycles, h, .refl _, .refl _⟩
  | cons t _ ih =>
    intro nodes cycles h
    obtain ⟨below, rest, loops, others, hfirst, hrest, rfl, rfl⟩ := explores_cons_iff.1 h
    obtain ⟨rest', others', hrest', hnodes, hcycles⟩ := ih _ _ hrest
    exact ⟨_, _, explores_cons_iff.2 ⟨below, rest', loops, others', hfirst, hrest', rfl, rfl⟩,
      hnodes.append_left _, hcycles.append_left _⟩
  | swap t u terms =>
    intro nodes cycles h
    obtain ⟨below₁, _, loops₁, _, hu, h', rfl, rfl⟩ := explores_cons_iff.1 h
    obtain ⟨below₂, rest, loops₂, others, ht, hrest, rfl, rfl⟩ := explores_cons_iff.1 h'
    exact ⟨_, _, explores_cons_iff.2 ⟨below₂, _, loops₂, _, ht,
      explores_cons_iff.2 ⟨below₁, rest, loops₁, others, hu, hrest, rfl, rfl⟩, rfl, rfl⟩,
      List.perm_append_comm_assoc _ _ _, List.perm_append_comm_assoc _ _ _⟩
  | trans _ _ ih₁ ih₂ =>
    intro nodes cycles h
    obtain ⟨nodes₁, cycles₁, h₁, hnodes₁, hcycles₁⟩ := ih₁ _ _ h
    obtain ⟨nodes₂, cycles₂, h₂, hnodes₂, hcycles₂⟩ := ih₂ _ _ h₁
    exact ⟨nodes₂, cycles₂, h₂, hnodes₁.trans hnodes₂, hcycles₁.trans hcycles₂⟩

/-- An exploration that one zone describes is one of the other zone when the records of its nodes
are reordered. The nodes have the same outlines and the loops are the same, in another order. -/
theorem Explores.of_reordered {τ : Type} {z z' : Zone τ} (hz : z.Reordered z')
    (h : Explores source outer terms nodes cycles) (hn : ∀ n ∈ nodes, z.Describes n) :
    ∃ nodes' cycles', Explores source outer terms nodes' cycles' ∧
      (∀ n ∈ nodes', z'.Describes n) ∧
      (nodes.map z.outline).Perm (nodes'.map z'.outline) ∧ cycles.Perm cycles' := by
  induction h with
  | done => exact ⟨[], [], .done, by simp, .nil, .nil⟩
  | skip ht _ ih =>
    obtain ⟨nodes', cycles', hrest, hn', hnodes, hcycles⟩ := ih hn
    exact ⟨nodes', cycles', .skip ht hrest, hn', hnodes, hcycles⟩
  | loop ht hp _ ih =>
    obtain ⟨nodes', cycles', hrest, hn', hnodes, hcycles⟩ := ih hn
    exact ⟨nodes', _, .loop ht hp hrest, hn', hnodes, hcycles.cons _⟩
  | @node source outer t terms below nodes loops cycles link n ht hp hvia hdepth _ _ ihi ihr =>
    obtain ⟨below₁, loops₁, hinner₁, hdescribed₁, hbelow₁, hloops₁⟩ := ihi fun m hm =>
      hn m (List.mem_append_left _ (List.mem_cons_of_mem _ hm))
    obtain ⟨nodes', cycles', hrest, hdescribed, hnodes, hcycles⟩ := ihr fun m hm =>
      hn m (List.mem_append_right _ hm)
    -- The record of the node is reordered, so what is found below it is put in another order.
    obtain ⟨n', hn', hterms, houtline⟩ :=
      hz.exists_describes (hn n (List.mem_append_left _ List.mem_cons_self))
    obtain ⟨below₂, loops₂, hinner₂, hbelow₂, hloops₂⟩ := Explores.of_perm hterms _ _ hinner₁
    have hplace := houtline
    simp only [Zone.outline, Prod.mk.injEq] at hplace
    obtain ⟨⟨hdomain, hdepth', hvia'⟩, -⟩ := hplace
    rw [hdomain] at ht hp hinner₂
    refine ⟨n' :: below₂ ++ nodes', loops₂ ++ cycles',
      .node ht hp (hvia' ▸ hvia) (hdepth' ▸ hdepth) hinner₂ hrest, ?_, ?_, ?_⟩
    · intro m hm
      rcases List.mem_append.1 hm with hm | hm
      · rcases List.mem_cons.1 hm with rfl | hm
        · exact hn'
        · exact hdescribed₁ m (hbelow₂.mem_iff.2 hm)
      · exact hdescribed m hm
    · rw [List.map_append, List.map_append, List.map_cons, List.map_cons, houtline]
      exact ((hbelow₁.trans (hbelow₂.map _)).cons _).append hnodes
    · exact (hloops₁.trans hloops₂).append hcycles

end Explores

/-! ## Walks whose terms are reordered -/

section Timing

variable {τ : Type} [Seconds τ] {z z' : Zone τ} {deadline now : τ} {budget : Nat} {domain : Text}
  {terms terms' : List Term}

/-- A walk from a record that evaluated every term was charged for each term that is charged. -/
theorem charged_of_completed
    (h : (walk z deadline budget now [⟨domain, terms⟩]).ending = .completed) :
    (walk z deadline budget now [⟨domain, terms⟩]).charged =
      terms.countP Term.isChargeable +
        ((walk z deadline budget now [⟨domain, terms⟩]).nodes.flatMap Node.terms).countP
          Term.isChargeable := by
  have habort : (walk z deadline budget now [⟨domain, terms⟩]).ending.abort? = none := by
    rw [h]
    rfl
  have hbalance := countP_pending_walk (p := Term.isChargeable) (fun t ht => ht) (fun _ => 1)
    (fun d now s ht _ => by rw [ht]; rfl) habort
  have hpending : pendingTerms [⟨domain, terms⟩] = terms := by simp [pendingTerms]
  rw [hpending, h, List.map_const', List.sum_replicate_nat, Nat.mul_one] at hbalance
  rw [Walk.charged, h]
  exact hbalance.symm

/-- If a walk from a record evaluated every term and no time elapses, the walk with the terms and
records reordered evaluates every term as well, and finds the same. -/
theorem walk_of_reordered (hz : z.Reordered z') (ht : z'.Timeless deadline now)
    (hp : terms.Perm terms')
    (h : (walk z deadline budget now [⟨domain, terms⟩]).ending = .completed) :
    (walk z' deadline budget now [⟨domain, terms'⟩]).ending = .completed ∧
      (walk z deadline budget now [⟨domain, terms⟩]).charged =
        (walk z' deadline budget now [⟨domain, terms'⟩]).charged ∧
      ((walk z deadline budget now [⟨domain, terms⟩]).nodes.map z.outline).Perm
        ((walk z' deadline budget now [⟨domain, terms'⟩]).nodes.map z'.outline) ∧
      (walk z deadline budget now [⟨domain, terms⟩]).cycles.Perm
        (walk z' deadline budget now [⟨domain, terms'⟩]).cycles := by
  -- What the walk explored is explored as well when the records are reordered, first those of the
  -- nodes and then that of the root.
  obtain ⟨nodes₁, cycles₁, hexplored₁, hdescribed, hnodes₁, hcycles₁⟩ :=
    (explores_walk h).of_reordered hz fun n hn => describes_of_mem_nodes_walk hn
  obtain ⟨nodes₂, cycles₂, hexplored₂, hnodes₂, hcycles₂⟩ := Explores.of_perm hp _ _ hexplored₁
  have houtlines := hnodes₁.trans (hnodes₂.map z'.outline)
  -- It costs the same, so it is within the budget.
  have hcount : (nodes₂.flatMap Node.terms).countP Term.isChargeable =
      ((walk z deadline budget now [⟨domain, terms⟩]).nodes.flatMap Node.terms).countP
        Term.isChargeable := by
    rw [countP_flatMap_terms z', countP_flatMap_terms z, (houtlines.map _).sum_nat]
  have hcharged := charged_of_completed h
  have hbudget : (walk z deadline budget now [⟨domain, terms⟩]).charged ≤ budget :=
    charged_le_of_not_isOverBudget (by rw [h]; rfl)
  have hwithin : terms'.countP Term.isChargeable +
      (nodes₂.flatMap Node.terms).countP Term.isChargeable ≤ budget := by
    rw [← hp.countP_eq]
    omega
  obtain ⟨hending, hnodes, hcycles⟩ := walk_of_explores ht hexplored₂
    (fun n hn => hdescribed n (hnodes₂.mem_iff.2 hn)) hwithin
  refine ⟨hending, ?_, ?_, ?_⟩
  · rw [hcharged, charged_of_completed hending, hnodes, hcount, hp.countP_eq]
  · rw [hnodes]
    exact houtlines
  · rw [hcycles]
    exact hcycles₁.trans hcycles₂

end Timing

end SenderPolicy
