import Mathlib.Data.List.Forall2
import Mathlib.Data.List.TakeWhile
import SenderPolicy.Proofs.Chain.Pending

/-!
# The tree of the domains met

An expansion lists the domains that it meets and tells of each only its depth. The list is that of a
tree in preorder, and the tree can be read off it: the parent of a node is the last node before it
whose depth is one less. `Node.ancestors` and `Node.children` read it so, each from one side.

`IsTrace` says what the tree has to do with the records: a node hangs on a term of its parent's
record, the children of a node on different terms in their order, and no node repeats one of its
ancestors. `IsTrace.snoc` is how it grows by one node.
-/

namespace SenderPolicy

/-! ## Ancestors and children -/

/-- The branch on which a node of the given depth hangs: of the nodes that were met earlier, the
latest first, the first whose depth is one less, and the branch on which that one hangs. -/
def branch : (depth : Nat) → (earlier : List Node) → List Node
  | _, [] => []
  | depth, n :: earlier =>
    if n.depth + 1 = depth then n :: branch n.depth earlier else branch depth earlier

namespace Node

/-- The ancestors of a node that follows the nodes `before`, the parent first. -/
def ancestors (n : Node) (before : List Node) : List Node := branch n.depth before.reverse

/-- The domains of a node that follows the nodes `before` and of its ancestors, its own first. -/
def path (n : Node) (before : List Node) : List Text :=
  n.domain :: (n.ancestors before).map Node.domain

/-- The children of a node among the nodes `after` that follow it. They are one deeper, and no node
of its own depth stands between it and them. -/
def children (n : Node) (after : List Node) : List Node :=
  (after.takeWhile (·.depth ≠ n.depth)).filter (·.depth = n.depth + 1)

/-- A node comes from a term if the term refers to its domain, by the reference that leads to the
node. -/
def ComesFrom (n : Node) (t : Term) : Prop := ∃ link, n.via = some link ∧ t.RefersTo link n.domain

end Node

variable {n m : Node} {before after : List Node}

/-- No node hangs on nodes of other depths than the one less than its own. -/
theorem branch_append {depth : Nat} {later earlier : List Node}
    (h : ∀ k ∈ later, k.depth + 1 ≠ depth) :
    branch depth (later ++ earlier) = branch depth earlier := by
  induction later with
  | nil => rfl
  | cons k later ih =>
    rw [List.forall_mem_cons] at h
    rw [List.cons_append, branch, if_neg h.1, ih h.2]

/-- A node hangs on the last one before it whose depth is one less. -/
theorem branch_reverse_append_cons {depth : Nat} (hd : n.depth + 1 = depth)
    (h : ∀ k ∈ after, k.depth + 1 ≠ depth) :
    branch depth (before ++ n :: after).reverse = n :: n.ancestors before := by
  have hrev : (before ++ n :: after).reverse = after.reverse ++ n :: before.reverse := by simp
  rw [hrev, branch_append fun k hk => h k (List.mem_reverse.1 hk), branch, if_pos hd]
  rfl

/-- A node that follows is a child of a node, or does not change its children. -/
theorem Node.children_snoc (n m : Node) (after : List Node) :
    n.children (after ++ [m]) = n.children after ∨
      m.depth = n.depth + 1 ∧ (∀ k ∈ after, k.depth ≠ n.depth) ∧
        n.children (after ++ [m]) = (after ++ [m]).filter (·.depth = n.depth + 1) := by
  by_cases hall : ∀ k ∈ after, k.depth ≠ n.depth
  · have hkept : after.takeWhile (fun k => decide (k.depth ≠ n.depth)) = after :=
      List.takeWhile_eq_self_iff.2 (by simpa using hall)
    by_cases hm : m.depth = n.depth + 1
    · refine .inr ⟨hm, hall, ?_⟩
      have hkept' : (after ++ [m]).takeWhile (fun k => decide (k.depth ≠ n.depth)) =
          after ++ [m] :=
        List.takeWhile_eq_self_iff.2 (by simpa [or_imp, forall_and, hm] using hall)
      rw [children, hkept']
    · -- A node of another depth is no child, whether or not it is in sight of `n`.
      left
      rw [children, children, hkept, List.takeWhile_append_of_pos (by simpa using hall),
        List.filter_append]
      by_cases hd : m.depth = n.depth <;> simp [hd, hm]
  · -- A node of the same depth as `n` hides all that follow.
    left
    have hhide : (after.takeWhile fun k => decide (k.depth ≠ n.depth)).length ≠ after.length := by
      intro hlen
      have heq := (List.takeWhile_prefix _).eq_of_length hlen
      exact hall (by simpa using List.takeWhile_eq_self_iff.1 heq)
    rw [children, children, List.takeWhile_append, if_neg hhide]

/-! ## Traces -/

/-- How a node beside the root stands in a trace, behind the nodes `before`. -/
structure Node.Placed (n : Node) (before : List Node) : Prop where
  /-- One lookup is charged for it. -/
  cost_eq : n.cost = 1
  /-- It is below the root. -/
  depth_pos : 1 ≤ n.depth
  /-- It is at most one deeper than the node before it. -/
  depth_le : ∃ last, before.getLast? = some last ∧ n.depth ≤ last.depth + 1
  /-- It has a parent, and comes from a term of the parent's record. -/
  parent : ∃ p r t, (n.ancestors before).head? = some p ∧ p.record = some r ∧ t ∈ r.terms ∧
    n.ComesFrom t
  /-- Its domain is that of none of its ancestors. -/
  not_ancestor : ∀ a ∈ n.ancestors before, a.domain ≠ n.domain
  /-- Its record has the version tag, if it has a record. -/
  hasVersion : ∀ r, n.record = some r → r.hasVersion = true

/-- The children of a node come from different terms of its record, in the order of the terms. -/
def Node.Ordered (n : Node) (children : List Node) : Prop :=
  ∃ ts, ts.Sublist n.terms ∧ List.Forall₂ Node.ComesFrom children ts

/-- Nodes that are met by the expansion of the records that they hold, the first of them the
root. -/
structure IsTrace (nodes : List Node) : Prop where
  /-- Every node but the root has its place. -/
  placed : ∀ before n after, nodes = before ++ n :: after → before ≠ [] → n.Placed before
  /-- The children of every node are ordered. -/
  ordered : ∀ before n after, nodes = before ++ n :: after → n.Ordered (n.children after)

/-- A node without a record has no children. -/
theorem IsTrace.children_eq_nil {nodes : List Node} (h : IsTrace nodes)
    (hnodes : nodes = before ++ n :: after) (hr : n.record = none) : n.children after = [] := by
  obtain ⟨ts, hts, hfrom⟩ := h.ordered before n after hnodes
  have hterms : n.terms = [] := by rw [Node.terms, hr]; rfl
  rw [hterms, List.sublist_nil] at hts
  rw [hts] at hfrom
  exact List.forall₂_nil_right_iff.1 hfrom

/-- The root alone is a trace. -/
theorem isTrace_singleton (n : Node) : IsTrace [n] := by
  have hcases : ∀ before k after, [n] = before ++ k :: after → before = [] ∧ after = [] := by
    intro before k after h
    cases before with
    | nil => exact ⟨rfl, (List.cons.inj h).2.symm⟩
    | cons b before => simp at h
  constructor
  · intro before k after h hne
    exact absurd (hcases before k after h).1 hne
  · intro before k after h
    rw [(hcases before k after h).2]
    exact ⟨[], List.nil_sublist _, .nil⟩

/-- A trace with one more node is a trace if the node has its place and comes from a later term of
its parent than the children before it. -/
theorem IsTrace.snoc {nodes : List Node} (h : IsTrace nodes) (hm : m.Placed nodes)
    (hchildren : ∀ before n after, nodes = before ++ n :: after → m.depth = n.depth + 1 →
      (∀ k ∈ after, k.depth ≠ n.depth) →
      n.Ordered ((after ++ [m]).filter (·.depth = n.depth + 1))) : IsTrace (nodes ++ [m]) := by
  -- The nodes of the new trace are those of the old one, before the new one, and the new one.
  have hcases : ∀ before n after, nodes ++ [m] = before ++ n :: after →
      (∃ after', nodes = before ++ n :: after' ∧ after = after' ++ [m]) ∨
        nodes = before ∧ n = m ∧ after = [] := by
    intro before n after heq
    rcases List.eq_nil_or_concat after with rfl | ⟨after', k, rfl⟩
    · obtain ⟨hb, hn⟩ := List.append_inj' heq rfl
      exact .inr ⟨hb, (List.singleton_inj.1 hn).symm, rfl⟩
    · rw [List.concat_eq_append, ← List.cons_append, ← List.append_assoc] at heq
      obtain ⟨hb, hn⟩ := List.append_inj' heq rfl
      rw [List.singleton_inj] at hn
      exact .inl ⟨after', hb, by rw [hn, List.concat_eq_append]⟩
  constructor
  · -- The place of a node depends on the nodes before it only.
    intro before n after heq hne
    rcases hcases before n after heq with ⟨after', hold, -⟩ | ⟨rfl, rfl, -⟩
    · exact h.placed before n after' hold hne
    · exact hm
  · intro before n after heq
    rcases hcases before n after heq with ⟨after', hold, rfl⟩ | ⟨rfl, rfl, rfl⟩
    · rcases n.children_snoc m after' with hsame | ⟨hdepth, hall, hnew⟩
      · rw [hsame]
        exact h.ordered before n after' hold
      · rw [hnew]
        exact hchildren before n after' hold hdepth hall
    · exact ⟨[], List.nil_sublist _, .nil⟩

end SenderPolicy
