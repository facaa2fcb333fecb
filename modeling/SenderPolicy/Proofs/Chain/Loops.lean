import SenderPolicy.Proofs.Chain.Evaluation
import SenderPolicy.Proofs.Chain.Exploration

/-!
# Loops

A walk finds a loop by comparing a domain with those of the open records. `loops_exact` says that it
finds the loops that the tree of the nodes has: a reference of a node to itself or to an ancestor,
and no other. One direction holds of every expansion. It goes by `evaluations`, which keeps for
every term what was open when it was evaluated, and by `OnBranch`, which says that this is the
branch of the node that holds the term (`refersFrom_of_mem_cycles`,
`refersFrom_of_mem_openLookups`). The other direction holds of an expansion that was not halted. It
goes by `Explores`, in which nothing of the walk is left, and from which the loops of every single
node can be read off (`Explores.perm_backReferences`).
-/

namespace SenderPolicy

/-! ## References back -/

/-- The domain that a term refers to, if it is on a path. -/
def Term.backReference? (t : Term) (path : List Text) : Option Text :=
  (t.target?.map Prod.snd).filter path.contains

/-- The references of the terms of a record to domains on a path, each with the domain of the
record. -/
def loopsOn (source : Text) (path : List Text) (terms : List Term) : List (Text × Text) :=
  terms.filterMap fun t => (t.backReference? path).map (source, ·)

/-- The references of the nodes `nodes`, which follow the nodes `before`, to themselves and to their
ancestors: those of the first node, then those of the second, and so on. -/
def backReferences : (before nodes : List Node) → List (Text × Text)
  | _, [] => []
  | before, n :: after =>
    loopsOn n.domain (n.path before) n.terms ++ backReferences (before ++ [n]) after

/-- A term that refers to no domain refers back to none. -/
theorem Term.backReference?_eq_none {t : Term} (ht : ∀ link name, ¬ t.RefersTo link name)
    (path : List Text) : t.backReference? path = none := by
  rw [backReference?, target?_eq_none_iff.2 ht]
  rfl

/-- A term refers back to the domain that it refers to, if it is on the path. -/
theorem Term.backReference?_of_refersTo {t : Term} {link : Link} {target : Text}
    (ht : t.RefersTo link target) (path : List Text) :
    t.backReference? path = if target ∈ path then some target else none := by
  rw [backReference?, target?_eq_some_iff.2 ht]
  simp [Option.filter]

/-- References are those of some nodes and those of the nodes that follow them. -/
theorem backReferences_append (before nodes after : List Node) :
    backReferences before (nodes ++ after) =
      backReferences before nodes ++ backReferences (before ++ nodes) after := by
  induction nodes generalizing before with
  | nil => simp [backReferences]
  | cons n nodes ih => simp [backReferences, ih]

/-- The loops of an exploration are the references back of the record that is explored and of the
nodes that are found, in another order: what is below a node is explored before the node that
follows it. -/
theorem Explores.perm_backReferences {source : Text} {outer : List Text} {terms : List Term}
    {nodes before : List Node} {cycles : List (Text × Text)}
    (h : Explores source outer terms nodes cycles)
    (hpath : (branch (outer.length + 1) before.reverse).map Node.domain = source :: outer) :
    cycles.Perm (loopsOn source (source :: outer) terms ++ backReferences before nodes) := by
  induction h generalizing before with
  | done => exact .nil
  | @skip source outer t terms nodes cycles ht _ ih =>
    rw [loopsOn, List.filterMap_cons_none (by rw [Term.backReference?_eq_none ht]; rfl)]
    exact ih hpath
  | @loop source outer t terms nodes cycles link target ht hp _ ih =>
    have hsome : t.backReference? (source :: outer) = some target := by
      rw [Term.backReference?_of_refersTo ht, if_pos hp]
    rw [loopsOn, List.filterMap_cons_some (by rw [hsome]; rfl)]
    exact (ih hpath).cons _
  | @node source outer t terms below nodes loops cycles link n ht hp hvia hdepth hi _ ihi ihr =>
    have hnone : t.backReference? (source :: outer) = none := by
      rw [Term.backReference?_of_refersTo ht, if_neg hp]
    have hancestors : (n.ancestors before).map Node.domain = source :: outer := by
      rw [Node.ancestors, hdepth, hpath]
    -- Below the node its domain is on the path, and behind what is below it no longer.
    have hbelow := @ihi (before ++ [n]) (by
      rw [branch_reverse_append_cons (by rw [hdepth, List.length_cons]) (by simp), List.map_cons,
        hancestors])
    have hbeside := @ihr (before ++ n :: below) (by
      have hdeeper : ∀ k ∈ (n :: below).reverse, k.depth + 1 ≠ outer.length + 1 := by
        intro k hk
        rcases List.mem_cons.1 (List.mem_reverse.1 hk) with rfl | hk
        · omega
        · have := hi.length_lt_depth k hk
          rw [List.length_cons] at this
          omega
      rw [List.reverse_append, branch_append hdeeper, hpath])
    have hsplit : backReferences before (n :: below ++ nodes) =
        loopsOn n.domain (n.domain :: source :: outer) n.terms ++
          backReferences (before ++ [n]) below ++ backReferences (before ++ n :: below) nodes := by
      rw [List.cons_append, backReferences, backReferences_append, Node.path, hancestors]
      simp
    rw [loopsOn, List.filterMap_cons_none (by rw [hnone]; rfl), hsplit]
    exact (hbelow.append hbeside).trans (List.perm_append_comm_assoc _ _ _)

section Timing

variable {τ : Type} [Seconds τ] {z : Zone τ} {deadline now : τ} {budget : Nat} {frames : List Frame}

/-! ## Loops and lookups of a walk -/

/-- A lookup is made for a term that refers to a domain whose record is not open. -/
theorem target?_of_attempt_query? {d : Due} {a : Attempt τ} {q : Query τ}
    (h : attempt z deadline now d = a) (hq : a.query? = some q) :
    ∃ link, d.term.target? = some (link, q.domain) ∧ q.domain ∉ d.path := by
  cases a with
  | stepped s =>
    cases attempt_eq_stepped_iff.1 h with
    | charged | loop => cases hq
    | unusable ht hp | entered ht hp =>
      cases hq
      exact ⟨_, ht, hp⟩
  | halted e =>
    cases attempt_eq_halted_iff.1 h with
    -- When the time is up before the lookup, it is not made.
    | overdue => cases hq
    | late ht hp | unreadable ht hp | broken ht hp =>
      cases hq
      exact ⟨_, ht, hp⟩

/-- A lookup is made for a reference of a node whose path begins at the root, and not for a domain
on the path. -/
theorem refersFrom_of_mem_openLookups {root : Text} {nodes : List Node} {path : List Text}
    {q : Query τ} (h : OnBranch nodes frames) (hroot : RootedAt root frames)
    (hq : (path, q) ∈ openLookups z deadline budget now frames) :
    RefersFrom (nodes ++ (walk z deadline budget now frames).nodes) path q.domain ∧
      root ∈ path ∧ q.domain ∉ path := by
  obtain ⟨⟨d, a⟩, hmem, hpair⟩ := List.mem_filterMap.1 hq
  obtain ⟨q', hq', heq⟩ := Option.map_eq_some_iff.1 hpair
  cases heq
  obtain ⟨start, met, more, ha, hopen, hrooted, hnodes⟩ :=
    open_of_mem_evaluations hmem nodes h hroot
  obtain ⟨link, ht, hp⟩ := target?_of_attempt_query? ha hq'
  rw [hnodes]
  exact ⟨(hopen.refersFrom ht).append more, hrooted.mem_path, hp⟩

/-- A loop is a reference of a node to a domain on the path of the node. -/
theorem refersFrom_of_mem_cycles {root : Text} {nodes : List Node} {source target : Text}
    (h : OnBranch nodes frames) (hroot : RootedAt root frames)
    (hc : (source, target) ∈ (walk z deadline budget now frames).cycles) :
    ∃ path, RefersFrom (nodes ++ (walk z deadline budget now frames).nodes) path target ∧
      path.head? = some source ∧ target ∈ path := by
  obtain ⟨s, hs, hcycle⟩ := List.mem_filterMap.1 hc
  obtain ⟨d, hmem⟩ := exists_evaluation_of_mem_steps hs
  obtain ⟨start, met, more, ha, hopen, -, hnodes⟩ := open_of_mem_evaluations hmem nodes h hroot
  cases attempt_eq_stepped_iff.1 ha with
  | charged | unusable | entered => cases hcycle
  | loop ht hp =>
    cases hcycle
    rw [hnodes]
    exact ⟨d.path, (hopen.refersFrom ht).append more, rfl, hp⟩

/-- A walk that evaluated every term looked up the domains that it met, and nothing else. -/
theorem map_domain_queries_walk
    (h : (walk z deadline budget now frames).ending = .completed) :
    (walk z deadline budget now frames).queries.map Query.domain =
      (walk z deadline budget now frames).nodes.map Node.domain := by
  -- The ending adds no lookup to those of the domains.
  rw [Walk.map_domain_queries, h]
  exact List.append_nil _

/-! ## Loops and lookups of a chain -/

/-- The loops of a chain with a root are those of its nodes, and its lookups, each with the domains
of the records that were open at the time, are for what is no loop. -/
structure Chain.LoopsExact (c : Chain) (root : Record) (lookups : List (List Text × Query τ)) :
    Prop where
  /-- A loop is a reference of the node that is its source, to itself or to an ancestor. -/
  cycle : ∀ source target, (source, target) ∈ c.cycles →
    ∃ path, RefersFrom c.nodes path target ∧ path.head? = some source ∧ target ∈ path
  /-- A lookup is made for a reference of a node, when the records of the node and its ancestors are
  open. It is for none of their domains, of which the root's is one. -/
  lookup : ∀ path q, (path, q) ∈ lookups →
    RefersFrom c.nodes path q.domain ∧ c.domain ∈ path ∧ q.domain ∉ path
  /-- If the expansion was not halted, it explored the terms of the root, and the loops are the only
  ones with which this finds the nodes. -/
  explores_iff : c.limitExceeded = false → c.timedOut = false → ∀ cycles,
    Explores c.domain [] root.terms c.nodes.tail cycles ↔ cycles = c.cycles
  /-- If the expansion was not halted, the loops are the references of the nodes to themselves and
  to their ancestors. -/
  perm_backReferences : c.limitExceeded = false → c.timedOut = false →
    c.cycles.Perm (backReferences [] c.nodes)
  /-- If the expansion was not halted, every node but the root was looked up, and nothing else. -/
  map_lookups : c.limitExceeded = false → c.timedOut = false →
    lookups.map (fun p => p.2.domain) = c.nodes.tail.map Node.domain

/-- The loops are exact that a walk from a root finds. -/
theorem loopsExact_chain_walk (records : List Text) (root : Record)
    (ha : (walk z deadline budget now [⟨root.domain, root.terms⟩]).ending.abort? = none) :
    ((walk z deadline budget now [⟨root.domain, root.terms⟩]).chain records root).LoopsExact root
      (openLookups z deadline budget now [⟨root.domain, root.terms⟩]) := by
  have hopen := onBranch_root root
  have hrooted : RootedAt root.domain [⟨root.domain, root.terms⟩] := by
    intro name hname
    exact (Option.some.inj hname).symm
  constructor
  · exact fun source target hc => refersFrom_of_mem_cycles hopen hrooted hc
  · exact fun path q hq => refersFrom_of_mem_openLookups hopen hrooted hq
  · intro ho ht cycles
    have hfound := explores_walk (Ending.eq_completed ha ho ht)
    constructor
    · exact fun h => Explores.cycles_unique h hfound
    · rintro rfl
      exact hfound
  · intro ho ht
    have hfound := explores_walk (Ending.eq_completed ha ho ht)
    have hroot : (branch 1 [⟨root.domain, some root, 0, none, none⟩]).map Node.domain =
        [root.domain] := rfl
    exact hfound.perm_backReferences hroot
  · intro ho ht
    refine Eq.trans ?_ (map_domain_queries_walk (Ending.eq_completed ha ho ht))
    rw [← map_snd_openLookups, List.map_map]
    rfl

/-- The loops are exact of every chain with a root, resolved or previewed. The lookups are those
that were made; when a domain is resolved, the first is that of the domain itself. -/
theorem loops_exact (z : Zone τ) (l : Limits τ) (now : τ) (domain raw : Text) (c : Chain)
    (root : Record) (hroot : c.root = some root) :
    ((Chain.resolve z l now domain).outcome = .ok c →
      ∃ lookups, c.LoopsExact root lookups ∧
        lookups = openLookups z (now + l.seconds) l.lookups.most.toNat
          (now + z.delay (normalizeDomain domain)) [⟨normalizeDomain domain, root.terms⟩] ∧
        (Chain.resolve z l now domain).queries =
          ⟨normalizeDomain domain, remaining (now + l.seconds) now⟩ :: lookups.map Prod.snd) ∧
    ((Chain.preview z l now domain raw).outcome = .ok c →
      ∃ lookups, c.LoopsExact root lookups ∧
        lookups = openLookups z (now + l.seconds) l.lookups.most.toNat now
          [⟨normalizeDomain domain, root.terms⟩] ∧
        (Chain.preview z l now domain raw).queries = lookups.map Prod.snd) := by
  constructor
  · intro h
    obtain ⟨records, text, w, rfl, hread, habort, rfl, hqueries⟩ := Chain.resolve_of_root h hroot
    have hdomain := Record.domain_of_read hread
    rw [← hdomain] at habort hqueries ⊢
    exact ⟨_, loopsExact_chain_walk records root habort, rfl, by rw [hqueries, map_snd_openLookups]⟩
  · intro h
    obtain ⟨w, rfl, hread, habort, rfl, hqueries⟩ := Chain.preview_of_root h hroot
    have hdomain := Record.domain_of_read hread
    rw [← hdomain] at habort hqueries ⊢
    exact ⟨_, loopsExact_chain_walk [raw] root habort, rfl, by rw [hqueries, map_snd_openLookups]⟩

end Timing

/-- A zone in which a record that refers to itself and to the root is reached on two branches. -/
def diamondZone : Zone Rat where
  answer domain :=
    if domain = ("a" : Text) then .texts ["v=spf1 include:b include:C. -all"]
    else if domain = ("b" : Text) then .texts ["v=spf1 include:c include:a"]
    else .texts ["v=spf1 include:%{d} include:c redirect=A"]
  delay _ := 0

/-- The record that is reached twice is met twice, each time with its loops. The root is looked up
once, before the walk. -/
theorem diamondZone_loops :
    ∃ c, (Chain.resolve diamondZone ⟨(10 : Int), 5⟩ 0 ("a" : Text)).outcome = .ok c ∧
      c.cycles = [(("c" : Text), ("c" : Text)), ("c", "a"), ("b", "a"), ("c", "c"), ("c", "a")] ∧
      (Chain.resolve diamondZone ⟨(10 : Int), 5⟩ 0 ("a" : Text)).queries.map Query.domain =
        ("a" : Text) :: c.nodes.tail.map Node.domain := by
  obtain ⟨c, hc, hfound⟩ : ∃ c,
      (Chain.resolve diamondZone ⟨(10 : Int), 5⟩ 0 ("a" : Text)).outcome = .ok c ∧
        (c.root.isSome && !c.limitExceeded && !c.timedOut, c.cycles) = (true,
          [(("c" : Text), ("c" : Text)), ("c", "a"), ("b", "a"), ("c", "c"), ("c", "a")]) :=
    exists_ok_of_map_toOption
      (fun c : Chain => (c.root.isSome && !c.limitExceeded && !c.timedOut, c.cycles))
      (by decide +kernel)
  simp only [Prod.mk.injEq, Bool.and_eq_true, Bool.not_eq_true'] at hfound
  obtain ⟨⟨⟨hsome, hlimit⟩, htime⟩, hcycles⟩ := hfound
  obtain ⟨root, hroot⟩ := Option.isSome_iff_exists.1 hsome
  obtain ⟨lookups, hexact, -, hqueries⟩ :=
    (loops_exact diamondZone ⟨(10 : Int), 5⟩ 0 "a" [] c root hroot).1 hc
  refine ⟨c, hc, hcycles, ?_⟩
  rw [hqueries, List.map_cons, List.map_map, ← hexact.map_lookups hlimit htime]
  rfl

end SenderPolicy
