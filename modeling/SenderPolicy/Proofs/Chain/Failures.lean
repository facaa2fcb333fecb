import Mathlib.Data.List.Basic
import SenderPolicy.Proofs.Chain.Expansion

/-!
# The failures of an expansion

The failures of a walk are noted beside the domains that it meets. `failures_walk` shows that they
are determined by these domains: a domain fails because of its own record, or, if it has none,
because its lookup was refused. So every domain without a record has its failure
(`exists_failure_of_record_eq_none`), and every failure its domain
(`exists_node_of_mem_failures_walk`).
-/

namespace SenderPolicy

/-- The failure of a domain that is met. -/
def Zone.failure? {τ : Type} (z : Zone τ) (n : Node) : Option Failure :=
  match n.record with
  | some r => r.diagnostic.map fun d => ⟨n.domain, .invalid, d.message⟩
  | none => (z.refusal? n.domain).map fun (kind, m) => ⟨n.domain, kind, m⟩

/-- The failure of a node is one of its domain. -/
theorem Zone.domain_of_failure? {τ : Type} {z : Zone τ} {n : Node} {f : Failure}
    (h : z.failure? n = some f) : f.domain = n.domain := by
  unfold failure? at h
  split at h
  · obtain ⟨d, -, rfl⟩ := Option.map_eq_some_iff.1 h
    rfl
  · obtain ⟨p, -, rfl⟩ := Option.map_eq_some_iff.1 h
    rfl

/-- A node with a record fails if the record is not well formed. -/
theorem Zone.map_kind_failure? {τ : Type} (z : Zone τ) {n : Node} {r : Record}
    (hr : n.record = some r) : (z.failure? n).map Failure.kind =
      if r.isWellFormed then none else some .invalid := by
  cases hd : r.diagnostic <;> simp [failure?, hr, hd, Record.isWellFormed]

section Timing

variable {τ : Type} [Seconds τ] {z : Zone τ} {deadline now : τ}

/-- A step notes the failure of the domain that it meets. -/
theorem Due.Steps.failure? {d : Due} {s : Step τ} (h : d.Steps z deadline now s) :
    s.failure? = s.node?.bind z.failure? := by
  cases h with
  | charged | loop => rfl
  | unusable ht hp hr hz hl => simp [Step.failure?, Step.node?, Zone.failure?, hz]
  | entered ht hp hr hz hread => rfl

/-- A domain that is met has a record, or else what is said of it is why its lookup was refused. -/
theorem Due.Steps.error_node {d : Due} {s : Step τ} {n : Node} (h : d.Steps z deadline now s)
    (hn : s.node? = some n) (hr : n.record = none) :
    ∃ kind m, z.refusal? n.domain = some (kind, m) ∧ n.error = some m := by
  cases h with
  | charged | loop | entered => cases hn <;> cases hr
  | unusable ht hp hr hz hl =>
    cases hn
    exact ⟨_, _, hz, rfl⟩

omit [Seconds τ] in
/-- A domain that a step meets is reached by a reference. -/
theorem Step.isSome_via_node {s : Step τ} {n : Node} (hn : s.node? = some n) :
    n.via.isSome = true := by
  cases s <;> cases hn <;> rfl

section Walk

variable {budget : Nat} {frames : List Frame}

/-- A domain that a walk meets is reached by a reference. -/
theorem isSome_via_of_mem_nodes_walk {n : Node}
    (hn : n ∈ (walk z deadline budget now frames).nodes) : n.via.isSome = true := by
  obtain ⟨s, -, hnode⟩ := List.mem_filterMap.1 hn
  exact s.isSome_via_node hnode

/-- The failures of a walk are those of the domains that it meets, in their order. -/
theorem failures_walk : (walk z deadline budget now frames).failures =
    (walk z deadline budget now frames).nodes.filterMap z.failure? := by
  have hsteps : ∀ s ∈ (walk z deadline budget now frames).steps,
      s.failure? = s.node?.bind z.failure? :=
    forall_mem_steps_walk (fun _ _ _ h => h.failure?) budget now frames
  rw [Walk.failures, Walk.nodes, List.filterMap_filterMap]
  exact List.filterMap_congr hsteps

/-- What is said of a domain without a record that a walk meets is why its lookup was refused. -/
theorem refusal?_of_mem_nodes_walk {n : Node}
    (hn : n ∈ (walk z deadline budget now frames).nodes) (hr : n.record = none) :
    ∃ kind m, z.refusal? n.domain = some (kind, m) ∧ n.error = some m := by
  obtain ⟨s, hs, hnode⟩ := List.mem_filterMap.1 hn
  have herror : ∀ s ∈ (walk z deadline budget now frames).steps, ∀ n, s.node? = some n →
      n.record = none → ∃ kind m, z.refusal? n.domain = some (kind, m) ∧ n.error = some m :=
    forall_mem_steps_walk (fun _ _ _ h _ => h.error_node) budget now frames
  exact herror s hs n hnode hr

/-- A domain without a record that a walk meets has a failure, which is not that of a malformed
record. -/
theorem exists_failure_of_record_eq_none {n : Node}
    (hn : n ∈ (walk z deadline budget now frames).nodes) (hr : n.record = none) :
    ∃ kind m, kind ≠ .invalid ∧ n.error = some m ∧
      ⟨n.domain, kind, m⟩ ∈ (walk z deadline budget now frames).failures := by
  obtain ⟨kind, m, hz, hm⟩ := refusal?_of_mem_nodes_walk hn hr
  refine ⟨kind, m, Zone.kind_ne_invalid_of_refusal? hz, hm, ?_⟩
  rw [failures_walk]
  exact List.mem_filterMap.2 ⟨n, hn, by simp [Zone.failure?, hr, hz]⟩

/-- A malformed record that a walk meets is a failure of its domain. -/
theorem exists_failure_of_not_isWellFormed {n : Node} {r : Record}
    (hn : n ∈ (walk z deadline budget now frames).nodes) (hr : n.record = some r)
    (hw : r.isWellFormed = false) :
    ∃ f ∈ (walk z deadline budget now frames).failures, f.kind = .invalid := by
  obtain ⟨d, hd⟩ : ∃ d, r.diagnostic = some d := by
    simpa [Record.isWellFormed, Option.isSome_iff_exists] using hw
  refine ⟨⟨n.domain, .invalid, d.message⟩, ?_, rfl⟩
  rw [failures_walk]
  exact List.mem_filterMap.2 ⟨n, hn, by simp [Zone.failure?, hr, hd]⟩

/-- A failure of a walk is that of a domain that it meets: of its malformed record, or what is said
of it if it has none. -/
theorem exists_node_of_mem_failures_walk {f : Failure}
    (hf : f ∈ (walk z deadline budget now frames).failures) :
    ∃ n ∈ (walk z deadline budget now frames).nodes, n.domain = f.domain ∧
      ((f.kind = .invalid ∧ ∃ r, n.record = some r ∧ r.isWellFormed = false) ∨
        f.kind ≠ .invalid ∧ n.record = none ∧ n.error = some f.message) := by
  rw [failures_walk] at hf
  obtain ⟨n, hn, hfail⟩ := List.mem_filterMap.1 hf
  unfold Zone.failure? at hfail
  cases hr : n.record with
  | some r =>
    rw [hr] at hfail
    obtain ⟨d, hd, rfl⟩ := Option.map_eq_some_iff.1 hfail
    exact ⟨n, hn, rfl, .inl ⟨rfl, r, hr, by simp [Record.isWellFormed, hd]⟩⟩
  | none =>
    rw [hr] at hfail
    obtain ⟨⟨kind, m⟩, hz, rfl⟩ := Option.map_eq_some_iff.1 hfail
    -- What is said of the domain is why it was refused, so it is the message of the failure.
    obtain ⟨kind', m', hz', hm⟩ := refusal?_of_mem_nodes_walk hn hr
    obtain ⟨rfl, rfl⟩ := Prod.mk.inj (Option.some.inj (hz.symm.trans hz'))
    exact ⟨n, hn, rfl, .inr ⟨Zone.kind_ne_invalid_of_refusal? hz, hr, hm⟩⟩

end Walk

end Timing

end SenderPolicy
