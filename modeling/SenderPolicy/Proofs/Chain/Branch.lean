import SenderPolicy.Proofs.Chain.Budget
import SenderPolicy.Proofs.Chain.Conservation
import SenderPolicy.Proofs.Chain.Failures
import SenderPolicy.Proofs.Chain.Trace
import SenderPolicy.Proofs.Record.Readable

/-!
# The open records are a branch of the trace

The walk keeps its open records on a stack, and lists the domains that it meets in another place.
`OnBranch` ties the two together: the open records are those of a node and its ancestors, each with
the terms that are still to be evaluated, and what was met since a record was opened stands below
its node, on terms that have been evaluated. The walk keeps this (`OnBranch.due`, `OnBranch.step`).
So the path on which loops are found is that of the ancestors (`OnBranch.map_domain_branch`), and
every domain that is met has its place behind those before it (`OnBranch.placed`). From a root on,
what is met is a tree in preorder (`nodes_preorder`).
-/

namespace SenderPolicy

/-- An open record is that of a node of the given depth, behind which the nodes `inner` were met:
they are below it, and its children among them come from terms that have been evaluated. -/
structure Frame.OpenedBy (f : Frame) (depth : Nat) (n : Node) (inner : List Node) : Prop where
  /-- The record is that of the domain of the node. -/
  domain_eq : n.domain = f.domain
  /-- The node is as deep as there are records around this one. -/
  depth_eq : n.depth = depth
  /-- What was met since is below the node. -/
  below : ∀ m ∈ inner, depth < m.depth
  /-- The terms that are pending are the last ones of the record, and the children of the node come
  from the others. -/
  pending : ∃ r evaluated ts, n.record = some r ∧ r.terms = evaluated ++ f.pending ∧
    ts.Sublist evaluated ∧ List.Forall₂ Node.ComesFrom (inner.filter (·.depth = depth + 1)) ts

/-- The open records, the innermost first, are those of a branch of the nodes that were met. -/
def OnBranch : List Node → List Frame → Prop
  | _, [] => True
  | nodes, f :: outer => ∃ before n inner, nodes = before ++ n :: inner ∧
      f.OpenedBy outer.length n inner ∧ OnBranch (before ++ [n]) outer

namespace OnBranch

variable {nodes : List Node} {domain : Text} {t : Term} {terms : List Term} {f : Frame}
  {outer frames : List Frame} {m : Node}

/-! ## What opening and closing records keep -/

/-- Nodes below the children of the innermost open record change nothing. -/
theorem append_below (h : OnBranch nodes frames) {ms : List Node}
    (hms : ∀ m ∈ ms, frames.length < m.depth) : OnBranch (nodes ++ ms) frames := by
  cases frames with
  | nil => trivial
  | cons f outer =>
    obtain ⟨before, n, inner, rfl, ho, hout⟩ := h
    obtain ⟨r, evaluated, ts, hr, hterms, hts, hfrom⟩ := ho.pending
    -- Nodes that are two deeper or more are no children of the innermost record's node.
    have hnone : ms.filter (·.depth = outer.length + 1) = [] := by
      refine List.filter_eq_nil_iff.2 fun m hm => ?_
      have := hms m hm
      rw [List.length_cons] at this
      simpa using Nat.ne_of_gt this
    refine ⟨before, n, inner ++ ms, by simp, ⟨ho.domain_eq, ho.depth_eq, ?_, ?_⟩, hout⟩
    · intro m hm
      rcases List.mem_append.1 hm with hm | hm
      · exact ho.below m hm
      · exact Nat.lt_of_succ_lt (hms m hm)
    · exact ⟨r, evaluated, ts, hr, hterms, hts, by rwa [List.filter_append, hnone, List.append_nil]⟩

/-- The records around an open one are a branch as well. -/
theorem close (h : OnBranch nodes (f :: outer)) : OnBranch nodes outer := by
  obtain ⟨before, n, inner, rfl, ho, hout⟩ := h
  -- What was met since the record was opened is below all that is open around it.
  have happend := hout.append_below ho.below
  simpa using happend

/-- A term may be passed over. -/
theorem skip (h : OnBranch nodes (⟨domain, t :: terms⟩ :: outer)) :
    OnBranch nodes (⟨domain, terms⟩ :: outer) := by
  obtain ⟨before, n, inner, rfl, ho, hout⟩ := h
  obtain ⟨r, evaluated, ts, hr, hterms, hts, hfrom⟩ := ho.pending
  refine ⟨before, n, inner, rfl, ⟨ho.domain_eq, ho.depth_eq, ho.below, ?_⟩, hout⟩
  exact ⟨r, evaluated ++ [t], ts, hr, by simpa using hterms,
    hts.trans (List.sublist_append_left _ _), hfrom⟩

/-- When a term is due, the open records are a branch, and the term is one of the innermost. -/
theorem due {d : Due} (h : OnBranch nodes frames) (hd : Due.next? frames = some d) :
    OnBranch nodes d.frames :=
  Due.of_next? (P := OnBranch nodes) (fun _ _ => close) (fun _ _ _ _ _ => skip) hd h

/-- A child of the innermost record that comes from its next term is met on the branch. -/
theorem meet (h : OnBranch nodes (⟨domain, t :: terms⟩ :: outer))
    (hdepth : m.depth = outer.length + 1) (hm : m.ComesFrom t) :
    OnBranch (nodes ++ [m]) (⟨domain, terms⟩ :: outer) := by
  obtain ⟨before, n, inner, rfl, ho, hout⟩ := h
  obtain ⟨r, evaluated, ts, hr, hterms, hts, hfrom⟩ := ho.pending
  have hchildren : (inner ++ [m]).filter (·.depth = outer.length + 1) =
      inner.filter (·.depth = outer.length + 1) ++ [m] := by
    simp [List.filter_append, hdepth]
  refine ⟨before, n, inner ++ [m], by simp, ⟨ho.domain_eq, ho.depth_eq, ?_, ?_⟩, hout⟩
  · intro k hk
    rcases List.mem_append.1 hk with hk | hk
    · exact ho.below k hk
    · rw [List.mem_singleton.1 hk, hdepth]
      exact Nat.lt_succ_self _
  · refine ⟨r, evaluated ++ [t], ts ++ [t], hr, by simpa using hterms, hts.append_right _, ?_⟩
    rw [hchildren]
    exact List.rel_append hfrom (.cons hm .nil)

/-- The record of a node that was just met is opened on its branch. -/
theorem push {r : Record} (h : OnBranch (nodes ++ [m]) frames) (hdepth : m.depth = frames.length)
    (hr : m.record = some r) : OnBranch (nodes ++ [m]) (⟨m.domain, r.terms⟩ :: frames) :=
  ⟨nodes, m, [], rfl, ⟨rfl, hdepth, by simp, r, [], [], hr, rfl, .slnil, .nil⟩, h⟩

/-! ## The branch and the ancestors -/

/-- The innermost open record is that of the parent of every node that is met next, and the others
are those of the branch on which the parent hangs. -/
theorem exists_parent (h : OnBranch nodes (f :: outer)) : ∃ before n inner,
    nodes = before ++ n :: inner ∧ f.OpenedBy outer.length n inner ∧
      branch (outer.length + 1) nodes.reverse = n :: n.ancestors before ∧
      OnBranch (before ++ [n]) outer := by
  obtain ⟨before, n, inner, rfl, ho, hout⟩ := h
  refine ⟨before, n, inner, rfl, ho, ?_, hout⟩
  refine branch_reverse_append_cons (by rw [ho.depth_eq]) fun k hk => ?_
  have := ho.below k hk
  omega

/-- The domains of the open records are those of the branch on which a node hangs that is met
next. -/
theorem map_domain_branch (h : OnBranch nodes frames) :
    (branch frames.length nodes.reverse).map Node.domain = frames.map Frame.domain := by
  induction frames generalizing nodes with
  | nil =>
    -- No node stands above the root.
    have hnone : branch 0 nodes.reverse = [] := by
      rw [← List.append_nil nodes.reverse, branch_append (fun k _ => Nat.succ_ne_zero _), branch]
    rw [List.length_nil, hnone]
    rfl
  | cons f outer ih =>
    obtain ⟨before, n, inner, -, ho, hparent, hout⟩ := h.exists_parent
    have hself : ∀ k ∈ [n], k.depth + 1 ≠ outer.length := by
      simp only [List.forall_mem_singleton, ho.depth_eq]
      omega
    have hrest : branch outer.length (before ++ [n]).reverse = n.ancestors before := by
      rw [List.reverse_append, List.reverse_singleton, branch_append hself, Node.ancestors,
        ho.depth_eq]
    rw [List.length_cons, hparent, List.map_cons, List.map_cons, ho.domain_eq, ← ih hout, hrest]

/-- The last node that was met is at least as deep as the innermost open record. -/
theorem exists_last (h : OnBranch nodes (f :: outer)) :
    ∃ last, nodes.getLast? = some last ∧ outer.length ≤ last.depth := by
  obtain ⟨before, n, inner, rfl, ho, -⟩ := h
  rcases List.eq_nil_or_concat inner with rfl | ⟨inner', last, rfl⟩
  · exact ⟨n, by simp, Nat.le_of_eq ho.depth_eq.symm⟩
  · have hassoc : before ++ n :: inner'.concat last = (before ++ n :: inner') ++ [last] := by
      rw [List.concat_eq_append, List.append_assoc, List.cons_append]
    exact ⟨last, by rw [hassoc, List.getLast?_concat], Nat.le_of_lt (ho.below last (by simp))⟩

/-- The innermost open record is that of the last node of its depth. -/
theorem pending_of_last (h : OnBranch nodes (f :: outer)) {before after : List Node} {n : Node}
    (hnodes : nodes = before ++ n :: after) (hdepth : n.depth = outer.length)
    (hlast : ∀ k ∈ after, k.depth ≠ n.depth) : f.OpenedBy outer.length n after := by
  obtain ⟨before', n', inner, hnodes', ho, -⟩ := h
  rw [hnodes] at hnodes'
  -- Neither node can stand behind the other, since both have that depth and none follows that has.
  rcases List.append_eq_append_iff.1 hnodes' with ⟨gap, -, hgap⟩ | ⟨gap, -, hgap⟩
  · cases gap with
    | nil =>
      obtain ⟨rfl, rfl⟩ := List.cons.inj hgap
      exact ho
    | cons k gap =>
      obtain ⟨rfl, rfl⟩ := List.cons.inj hgap
      exact absurd (ho.depth_eq.trans hdepth.symm) (hlast n' (by simp))
  · cases gap with
    | nil =>
      obtain ⟨rfl, rfl⟩ := List.cons.inj hgap
      exact ho
    | cons k gap =>
      obtain ⟨rfl, rfl⟩ := List.cons.inj hgap
      exact absurd hdepth (Nat.ne_of_gt (ho.below n (by simp)))

end OnBranch

/-! ## Steps of the walk -/

section Timing

variable {τ : Type} [Seconds τ] {z : Zone τ} {deadline now : τ} {d : Due} {s : Step τ}

/-- A domain that a step meets comes from the term that is due. -/
theorem Due.Steps.comesFrom {m : Node} (h : d.Steps z deadline now s) (hm : s.node? = some m) :
    m.ComesFrom d.term := by
  cases h with
  | charged | loop => cases hm
  | unusable ht | entered ht =>
    cases hm
    exact ⟨_, rfl, Term.target?_eq_some_iff.1 ht⟩

/-- A domain that a step meets is that of no open record. -/
theorem Due.Steps.domain_notMem_path {m : Node} (h : d.Steps z deadline now s)
    (hm : s.node? = some m) : m.domain ∉ d.path := by
  cases h with
  | charged | loop => cases hm
  | unusable ht hp | entered ht hp =>
    cases hm
    exact hp

/-- The record of a domain that a step meets has the version tag. -/
theorem Due.Steps.hasVersion_node {m : Node} {r : Record} (h : d.Steps z deadline now s)
    (hm : s.node? = some m) (hr : m.record = some r) : r.hasVersion = true := by
  cases h with
  | charged | loop => cases hm
  | unusable => cases hm; cases hr
  | entered ht hp htime hz hread =>
    cases hm
    cases hr
    exact Record.hasVersion_of_read (Zone.isSpfRecord_of_published? hz) hread

/-- After a step the open records are a branch of what was met, if they were when its term was
due. -/
theorem OnBranch.step {nodes : List Node} (h : OnBranch nodes d.frames)
    (hs : d.Steps z deadline now s) : OnBranch (nodes ++ s.node?.toList) (s.opened ++ d.rest) := by
  cases hs with
  | charged | loop =>
    show OnBranch (nodes ++ []) d.rest
    rw [List.append_nil]
    exact h.skip
  | unusable ht hp htime hz hl =>
    exact h.meet rfl ⟨_, rfl, Term.target?_eq_some_iff.1 ht⟩
  | entered ht hp htime hz hread =>
    exact (h.meet rfl ⟨_, rfl, Term.target?_eq_some_iff.1 ht⟩).push rfl rfl

/-- A domain that a step meets has its place behind what was met before. -/
theorem OnBranch.placed {nodes : List Node} {m : Node} (h : OnBranch nodes d.frames)
    (hs : d.Steps z deadline now s) (hm : s.node? = some m) : m.Placed nodes := by
  have hdepth : m.depth = d.outer.length + 1 := hs.depth_node hm
  have hpath : (m.ancestors nodes).map Node.domain = d.path := by
    rw [Node.ancestors, hdepth]
    exact h.map_domain_branch
  refine ⟨?_, by omega, ?_, ?_, ?_, fun r hr => hs.hasVersion_node hm hr⟩
  · rw [Node.cost, s.isSome_via_node hm]
    rfl
  · obtain ⟨last, hlast, hle⟩ := h.exists_last
    exact ⟨last, hlast, by omega⟩
  · obtain ⟨before, p, inner, -, ho, hbranch, -⟩ := h.exists_parent
    obtain ⟨r, evaluated, -, hr, hterms, -⟩ := ho.pending
    refine ⟨p, r, d.term, ?_, hr, ?_, hs.comesFrom hm⟩
    · rw [Node.ancestors, hdepth, hbranch]
      rfl
    · rw [hterms]
      simp
  · -- The ancestors have the domains on the path, and no domain on the path is looked up.
    intro a ha heq
    refine hs.domain_notMem_path hm ?_
    rw [← hpath, ← heq]
    exact List.mem_map_of_mem ha

/-- A step makes a longer trace of a trace. -/
theorem OnBranch.isTrace_step {nodes : List Node} (h : OnBranch nodes d.frames) (ht : IsTrace nodes)
    (hs : d.Steps z deadline now s) : IsTrace (nodes ++ s.node?.toList) := by
  cases hm : s.node? with
  | none => simpa using ht
  | some m =>
    have hdepth : m.depth = d.outer.length + 1 := hs.depth_node hm
    refine ht.snoc (h.placed hs hm) fun before n after hnodes hchild hlast => ?_
    -- The parent of the new node is that of the record whose term was due.
    have hrest : OnBranch (nodes ++ [m]) d.rest := h.meet hdepth (hs.comesFrom hm)
    have hparent : n.depth = d.outer.length := by omega
    have hopen := hrest.pending_of_last
      (by rw [hnodes, List.append_assoc, List.cons_append]) hparent (by
        simp only [List.mem_append, List.mem_singleton]
        rintro k (hk | rfl)
        · exact hlast k hk
        · omega)
    obtain ⟨r, evaluated, ts, hr, hterms, hts, hfrom⟩ := hopen.pending
    have hn : n.terms = evaluated ++ d.later := by rw [Node.terms, hr]; exact hterms
    refine ⟨ts, ?_, by rwa [hparent]⟩
    rw [hn]
    exact hts.trans (List.sublist_append_left _ _)

/-! ## The walk -/

/-- The nodes that a walk meets continue a trace, if the open records are a branch of it. -/
theorem isTrace_walk {budget : Nat} {frames : List Frame} : ∀ nodes : List Node,
    IsTrace nodes → OnBranch nodes frames →
      IsTrace (nodes ++ (walk z deadline budget now frames).nodes) := by
  fun_induction walk z deadline budget now frames with
  | case1 | case2 | case3 | case4 =>
    intro nodes ht _
    rwa [Walk.nodes, List.filterMap_nil, List.append_nil]
  | case5 budget now frames d hd s hs w ih =>
    intro nodes ht h
    have hstep := attempt_eq_stepped_iff.1 hs
    have hdue := h.due hd
    rw [Walk.nodes_cons, ← List.append_assoc]
    exact ih _ (hdue.isTrace_step ht hstep) (hdue.step hstep)

omit [Seconds τ] in
/-- The record of the root alone is open when a walk begins. -/
theorem onBranch_root (root : Record) :
    OnBranch [⟨root.domain, some root, 0, none, none⟩] [⟨root.domain, root.terms⟩] := by
  have hnone : OnBranch ([] ++ [⟨root.domain, some root, 0, none, none⟩]) [] := trivial
  exact hnone.push rfl rfl

/-- Every chain with a root, resolved or previewed, lists a tree in preorder. The first node is the
root, and every other has its place below a node that holds a term for it. A node without a record
has no children. -/
theorem nodes_preorder (z : Zone τ) (l : Limits τ) (now : τ) (domain raw : Text) (c : Chain)
    (root : Record)
    (h : (Chain.resolve z l now domain).outcome = .ok c ∨
      (Chain.preview z l now domain raw).outcome = .ok c) (hroot : c.root = some root) :
    (∃ n later, c.nodes = n :: later ∧ n.domain = normalizeDomain domain ∧ n.record = some root ∧
      n.cost = 0 ∧ n.depth = 0 ∧ n.via = none) ∧
      IsTrace c.nodes ∧
      ∀ before n after, c.nodes = before ++ n :: after → n.record = none →
        n.children after = [] := by
  obtain ⟨start, records, text, hread, -, rfl⟩ := Chain.exists_walk_of_root h hroot
  have hdomain : root.domain = normalizeDomain domain := Record.domain_of_read hread
  have htrace : IsTrace ([⟨root.domain, some root, 0, none, none⟩] ++
      (walk z (now + l.seconds) l.lookups.most.toNat start
        [⟨normalizeDomain domain, root.terms⟩]).nodes) := by
    rw [← hdomain]
    exact isTrace_walk _ (isTrace_singleton _) (onBranch_root root)
  exact ⟨⟨_, _, rfl, hdomain, rfl, rfl, rfl, rfl⟩, htrace,
    fun before n after => htrace.children_eq_nil⟩

end Timing

/-- A zone in which a record is reached on two branches, and one of its references leads back on
both of them. -/
def branchingZone : Zone Rat where
  answer domain :=
    if domain = ("a" : Text) then .texts ["v=spf1 include:b include:C. -all"]
    else if domain = ("b" : Text) then .texts ["v=spf1 include:%{d} include:c"]
    else if domain = ("c" : Text) then .texts ["v=spf1 include:d redirect=a"]
    else .notFound []
  delay _ := 0

/-- The record that is reached twice is met twice, once below the other and once beside it. -/
theorem branchingZone_preorder :
    ∃ c, (Chain.resolve branchingZone ⟨(10 : Int), 5⟩ 0 ("a" : Text)).outcome = .ok c ∧
      c.nodes.map (fun n => (n.domain, n.depth)) =
        [(("a" : Text), 0), ("b", 1), ("c", 2), ("d", 3), ("c", 1), ("d", 2)] ∧
      IsTrace c.nodes := by
  obtain ⟨c, hc, hfound⟩ : ∃ c,
      (Chain.resolve branchingZone ⟨(10 : Int), 5⟩ 0 ("a" : Text)).outcome = .ok c ∧
        (c.root.isSome, c.nodes.map fun n => (n.domain, n.depth)) =
          (true, [(("a" : Text), 0), ("b", 1), ("c", 2), ("d", 3), ("c", 1), ("d", 2)]) :=
    exists_ok_of_map_toOption
      (fun c : Chain => (c.root.isSome, c.nodes.map fun n => (n.domain, n.depth)))
      (by decide +kernel)
  obtain ⟨hsome, hnodes⟩ := Prod.mk.inj hfound
  obtain ⟨root, hroot⟩ := Option.isSome_iff_exists.1 hsome
  exact ⟨c, hc, hnodes,
    (nodes_preorder branchingZone ⟨(10 : Int), 5⟩ 0 "a" [] c root (.inl hc) hroot).2.1⟩

end SenderPolicy
