import SenderPolicy.Proofs.Chain.Expansion
import SenderPolicy.Proofs.Chain.Pending

/-!
# Explorations

A walk evaluates one term after the other over a stack of open records, and may be halted. What it
finds if it is not halted can be said without stack, limit and clock: `Explores` goes through the
terms of a record and, at every domain that is referred to, through those of its record, with
nothing but the domains of the records around. What it finds is determined by the nodes
(`Explores.unique`), and it does not ask how the zone came by them. Terms may be explored in parts,
each for itself (`explores_append_iff`). `exploresAll_walk` shows that a walk that evaluated every
term explored its records.
-/

namespace SenderPolicy

/-- The terms of a record, explored depth first and to the end. The record is that of `source`, and
`outer` are the domains of the records around it, the innermost first. A reference to one of these
domains is a loop. Every other domain that is referred to is a node, and the terms of its record are
explored before the next term. -/
inductive Explores : (source : Text) → (outer : List Text) → List Term → List Node →
    List (Text × Text) → Prop
  /-- No term is left. -/
  | done {source : Text} {outer : List Text} : Explores source outer [] [] []
  /-- The term refers to no domain. -/
  | skip {source : Text} {outer : List Text} {t : Term} {terms : List Term} {nodes : List Node}
      {cycles : List (Text × Text)} (ht : ∀ link name, ¬ t.RefersTo link name)
      (rest : Explores source outer terms nodes cycles) :
      Explores source outer (t :: terms) nodes cycles
  /-- The term refers to a domain whose record is open. -/
  | loop {source : Text} {outer : List Text} {t : Term} {terms : List Term} {nodes : List Node}
      {cycles : List (Text × Text)} {link : Link} {target : Text} (ht : t.RefersTo link target)
      (hp : target ∈ source :: outer) (rest : Explores source outer terms nodes cycles) :
      Explores source outer (t :: terms) nodes ((source, target) :: cycles)
  /-- The term refers to another domain. -/
  | node {source : Text} {outer : List Text} {t : Term} {terms : List Term}
      {below nodes : List Node} {loops cycles : List (Text × Text)} {link : Link} {n : Node}
      (ht : t.RefersTo link n.domain) (hp : n.domain ∉ source :: outer)
      (hvia : n.via = some link) (hdepth : n.depth = outer.length + 1)
      (inner : Explores n.domain (source :: outer) n.terms below loops)
      (rest : Explores source outer terms nodes cycles) :
      Explores source outer (t :: terms) (n :: below ++ nodes) (loops ++ cycles)

/-- The pending terms of open records are explored, the innermost record first. -/
def ExploresAll : List Frame → List Node → List (Text × Text) → Prop
  | [], nodes, cycles => nodes = [] ∧ cycles = []
  | f :: outer, nodes, cycles => ∃ below nodes' loops cycles',
      Explores f.domain (outer.map Frame.domain) f.pending below loops ∧
        ExploresAll outer nodes' cycles' ∧ nodes = below ++ nodes' ∧ cycles = loops ++ cycles'

/-! ## One term of an exploration -/

section Term

variable {source target : Text} {outer : List Text} {t : Term} {terms : List Term}
  {nodes : List Node} {cycles : List (Text × Text)} {link : Link}

/-- No terms are explored without finding anything. -/
theorem explores_nil_iff : Explores source outer [] nodes cycles ↔ nodes = [] ∧ cycles = [] := by
  constructor
  · intro h
    cases h
    exact ⟨rfl, rfl⟩
  · rintro ⟨rfl, rfl⟩
    exact .done

/-- Nothing is found at a term that refers to no domain. -/
theorem explores_skip_iff (ht : ∀ link name, ¬ t.RefersTo link name) :
    Explores source outer (t :: terms) nodes cycles ↔ Explores source outer terms nodes cycles := by
  constructor
  · intro h
    cases h with
    | skip _ rest => exact rest
    | loop ht' => exact absurd ht' (ht _ _)
    | node ht' => exact absurd ht' (ht _ _)
  · exact .skip ht

/-- A loop is found at a term that refers to a domain whose record is open. -/
theorem explores_loop_iff (ht : t.RefersTo link target) (hp : target ∈ source :: outer) :
    Explores source outer (t :: terms) nodes cycles ↔
      ∃ cycles', cycles = (source, target) :: cycles' ∧
        Explores source outer terms nodes cycles' := by
  constructor
  · intro h
    cases h with
    | skip ht' => exact absurd ht (ht' _ _)
    | loop ht' _ rest =>
      obtain ⟨-, rfl⟩ := ht.unique ht'
      exact ⟨_, rfl, rest⟩
    | node ht' hp' =>
      obtain ⟨-, rfl⟩ := ht.unique ht'
      exact absurd hp hp'
  · rintro ⟨cycles', rfl, rest⟩
    exact .loop ht hp rest

/-- A node and what is found below it are found at a term that refers to another domain. -/
theorem explores_node_iff (ht : t.RefersTo link target) (hp : target ∉ source :: outer) :
    Explores source outer (t :: terms) nodes cycles ↔
      ∃ n below nodes' loops cycles', n.domain = target ∧ n.via = some link ∧
        n.depth = outer.length + 1 ∧ Explores target (source :: outer) n.terms below loops ∧
        Explores source outer terms nodes' cycles' ∧ nodes = n :: below ++ nodes' ∧
        cycles = loops ++ cycles' := by
  constructor
  · intro h
    cases h with
    | skip ht' => exact absurd ht (ht' _ _)
    | loop ht' hp' =>
      obtain ⟨-, rfl⟩ := ht.unique ht'
      exact absurd hp' hp
    | node ht' _ hvia hdepth inner rest =>
      obtain ⟨rfl, rfl⟩ := ht.unique ht'
      exact ⟨_, _, _, _, _, rfl, hvia, hdepth, inner, rest, rfl, rfl⟩
  · rintro ⟨n, below, nodes', loops, cycles', rfl, hvia, hdepth, inner, rest, rfl, rfl⟩
    exact .node ht hp hvia hdepth inner rest

end Term

/-- What an exploration finds is determined by the nodes: of a list of nodes that begins with those
that one exploration finds and with those that another one finds, both take the same part, and they
find the same loops. -/
theorem Explores.unique {source : Text} {outer : List Text} {terms : List Term}
    {nodes nodes' more more' : List Node} {cycles cycles' : List (Text × Text)}
    (h : Explores source outer terms nodes cycles) (h' : Explores source outer terms nodes' cycles')
    (heq : nodes ++ more = nodes' ++ more') : nodes = nodes' ∧ cycles = cycles' := by
  induction h generalizing nodes' cycles' more more' with
  | done =>
    obtain ⟨rfl, rfl⟩ := explores_nil_iff.1 h'
    exact ⟨rfl, rfl⟩
  | skip ht _ ih => exact ih ((explores_skip_iff ht).1 h') heq
  | loop ht hp _ ih =>
    obtain ⟨cycles', rfl, rest'⟩ := (explores_loop_iff ht hp).1 h'
    obtain ⟨rfl, rfl⟩ := ih rest' heq
    exact ⟨rfl, rfl⟩
  | @node source outer t terms below nodes loops cycles link n ht hp hvia hdepth _ _ ihi ihr =>
    obtain ⟨n', below', nodes', loops', cycles', -, -, -, inner', rest', rfl, rfl⟩ :=
      (explores_node_iff ht hp).1 h'
    -- The node of the term is the same, so its terms are, and then what is found below it.
    simp only [List.cons_append, List.append_assoc, List.cons.injEq] at heq
    obtain ⟨rfl, heq⟩ := heq
    obtain ⟨rfl, rfl⟩ := ihi inner' heq
    obtain ⟨rfl, rfl⟩ := ihr rest' (List.append_cancel_left heq)
    exact ⟨rfl, rfl⟩

/-- With the same nodes, the same loops are found. -/
theorem Explores.cycles_unique {source : Text} {outer : List Text} {terms : List Term}
    {nodes : List Node} {cycles cycles' : List (Text × Text)}
    (h : Explores source outer terms nodes cycles)
    (h' : Explores source outer terms nodes cycles') : cycles = cycles' := by
  have heq : nodes ++ [] = nodes ++ [] := rfl
  exact (h.unique h' heq).2

/-! ## Explorations in parts -/

section Parts

variable {source : Text} {outer : List Text} {t : Term} {terms terms' : List Term}
  {nodes : List Node} {cycles : List (Text × Text)}

/-- What is found at the first term comes before what is found at the others, and neither depends on
the other. -/
theorem explores_cons_iff : Explores source outer (t :: terms) nodes cycles ↔
    ∃ below nodes' loops cycles', Explores source outer [t] below loops ∧
      Explores source outer terms nodes' cycles' ∧ nodes = below ++ nodes' ∧
      cycles = loops ++ cycles' := by
  constructor
  · intro h
    cases h with
    | skip ht rest => exact ⟨[], nodes, [], cycles, .skip ht .done, rest, rfl, rfl⟩
    | loop ht hp rest => exact ⟨[], nodes, _, _, .loop ht hp .done, rest, rfl, rfl⟩
    | node ht hp hvia hdepth inner rest =>
      exact ⟨_, _, _, _, .node ht hp hvia hdepth inner .done, rest, by simp, by simp⟩
  · rintro ⟨below, nodes', loops, cycles', hfirst, rest, rfl, rfl⟩
    cases hfirst with
    | skip ht hnil =>
      obtain ⟨rfl, rfl⟩ := explores_nil_iff.1 hnil
      exact .skip ht rest
    | loop ht hp hnil =>
      obtain ⟨rfl, rfl⟩ := explores_nil_iff.1 hnil
      exact .loop ht hp rest
    | node ht hp hvia hdepth inner hnil =>
      obtain ⟨rfl, rfl⟩ := explores_nil_iff.1 hnil
      rw [List.append_nil, List.append_nil]
      exact .node ht hp hvia hdepth inner rest

/-- What is found at terms in two parts is what is found at the first part and then what is found at
the second. -/
theorem explores_append_iff :
    Explores source outer (terms ++ terms') nodes cycles ↔
      ∃ nodes₁ nodes₂ cycles₁ cycles₂, Explores source outer terms nodes₁ cycles₁ ∧
        Explores source outer terms' nodes₂ cycles₂ ∧ nodes = nodes₁ ++ nodes₂ ∧
        cycles = cycles₁ ++ cycles₂ := by
  induction terms generalizing nodes cycles with
  | nil =>
    constructor
    · intro h
      exact ⟨[], nodes, [], cycles, .done, h, rfl, rfl⟩
    · rintro ⟨nodes₁, nodes₂, cycles₁, cycles₂, hnil, h, rfl, rfl⟩
      obtain ⟨rfl, rfl⟩ := explores_nil_iff.1 hnil
      exact h
  | cons t terms ih =>
    rw [List.cons_append, explores_cons_iff]
    constructor
    · rintro ⟨below, _, loops, _, hfirst, hrest, rfl, rfl⟩
      obtain ⟨nodes₁, nodes₂, cycles₁, cycles₂, h₁, h₂, rfl, rfl⟩ := ih.1 hrest
      exact ⟨below ++ nodes₁, nodes₂, loops ++ cycles₁, cycles₂,
        explores_cons_iff.2 ⟨below, nodes₁, loops, cycles₁, hfirst, h₁, rfl, rfl⟩, h₂,
        (List.append_assoc _ _ _).symm, (List.append_assoc _ _ _).symm⟩
    · rintro ⟨_, nodes₂, _, cycles₂, hcons, h₂, rfl, rfl⟩
      obtain ⟨below, nodes₁, loops, cycles₁, hfirst, h₁, rfl, rfl⟩ := explores_cons_iff.1 hcons
      exact ⟨below, nodes₁ ++ nodes₂, loops, cycles₁ ++ cycles₂, hfirst,
        ih.2 ⟨nodes₁, nodes₂, cycles₁, cycles₂, h₁, h₂, rfl, rfl⟩,
        List.append_assoc _ _ _, List.append_assoc _ _ _⟩

/-- What is found by an exploration is below the record that is explored. -/
theorem Explores.length_lt_depth (h : Explores source outer terms nodes cycles) :
    ∀ n ∈ nodes, outer.length < n.depth := by
  induction h with
  | done => exact fun n hn => absurd hn List.not_mem_nil
  | skip _ _ ih | loop _ _ _ ih => exact ih
  | node _ _ _ hdepth _ _ ihi ihr =>
    intro m hm
    rcases List.mem_append.1 hm with hm | hm
    · rcases List.mem_cons.1 hm with rfl | hm
      · rw [hdepth]
        exact Nat.lt_succ_self _
      · exact Nat.lt_of_succ_lt (ihi m hm)
    · exact ihr m hm

end Parts

/-! ## One term of a stack of open records -/

section Stack

variable {domain target : Text} {t : Term} {terms : List Term} {outer stack : List Frame} {d : Due}
  {nodes : List Node} {cycles : List (Text × Text)} {link : Link}

/-- An open record without terms is explored. -/
theorem exploresAll_close :
    ExploresAll (⟨domain, []⟩ :: outer) nodes cycles ↔ ExploresAll outer nodes cycles := by
  simp only [ExploresAll, explores_nil_iff]
  constructor
  · rintro ⟨below, nodes', loops, cycles', ⟨rfl, rfl⟩, rest, rfl, rfl⟩
    exact rest
  · intro rest
    exact ⟨[], nodes, [], cycles, ⟨rfl, rfl⟩, rest, rfl, rfl⟩

/-- Nothing is found at a term that refers to no domain. -/
theorem exploresAll_skip (ht : ∀ link name, ¬ t.RefersTo link name) :
    ExploresAll (⟨domain, t :: terms⟩ :: outer) nodes cycles ↔
      ExploresAll (⟨domain, terms⟩ :: outer) nodes cycles := by
  simp only [ExploresAll, explores_skip_iff ht]

/-- A loop is found at a term that refers to the domain of an open record. -/
theorem exploresAll_loop (ht : t.RefersTo link target)
    (hp : target ∈ domain :: outer.map Frame.domain) :
    ExploresAll (⟨domain, t :: terms⟩ :: outer) nodes cycles ↔
      ∃ cycles', cycles = (domain, target) :: cycles' ∧
        ExploresAll (⟨domain, terms⟩ :: outer) nodes cycles' := by
  simp only [ExploresAll, explores_loop_iff ht hp]
  constructor
  · rintro ⟨below, nodes', loops, cycles', ⟨loops', rfl, inner⟩, rest, rfl, rfl⟩
    exact ⟨loops' ++ cycles', rfl, below, nodes', loops', cycles', inner, rest, rfl, rfl⟩
  · rintro ⟨_, rfl, below, nodes', loops, cycles', inner, rest, rfl, rfl⟩
    exact ⟨below, nodes', _, cycles', ⟨loops, rfl, inner⟩, rest, rfl, rfl⟩

/-- At a term that refers to another domain a node is found, whose record is opened. -/
theorem exploresAll_node (ht : t.RefersTo link target)
    (hp : target ∉ domain :: outer.map Frame.domain) :
    ExploresAll (⟨domain, t :: terms⟩ :: outer) nodes cycles ↔
      ∃ n nodes', n.domain = target ∧ n.via = some link ∧ n.depth = outer.length + 1 ∧
        ExploresAll (⟨target, n.terms⟩ :: ⟨domain, terms⟩ :: outer) nodes' cycles ∧
        nodes = n :: nodes' := by
  simp only [ExploresAll, explores_node_iff ht hp, List.map_cons, List.length_map]
  constructor
  · rintro ⟨_, nodes', _, cycles', ⟨n, below, beside, loops, later, hd, hvia, hdepth, inner, rest,
      rfl, rfl⟩, hout, rfl, rfl⟩
    exact ⟨n, below ++ (beside ++ nodes'), hd, hvia, hdepth, ⟨below, _, loops, _, inner,
      ⟨beside, nodes', later, cycles', rest, hout, rfl, rfl⟩, rfl, by simp⟩, by simp⟩
  · rintro ⟨n, _, hd, hvia, hdepth, ⟨below, _, loops, _, inner,
      ⟨beside, nodes', later, cycles', rest, hout, rfl, rfl⟩, rfl, rfl⟩, rfl⟩
    exact ⟨_, nodes', _, cycles', ⟨n, below, beside, loops, later, hd, hvia, hdepth, inner, rest,
      rfl, rfl⟩, hout, by simp, by simp⟩

/-- Nothing is found at a term that is charged nothing. -/
theorem exploresAll_skip_of_not_isChargeable (ht : t.isChargeable = false) :
    ExploresAll (⟨domain, t :: terms⟩ :: outer) nodes cycles ↔
      ExploresAll (⟨domain, terms⟩ :: outer) nodes cycles :=
  exploresAll_skip fun _ _ => Term.not_refersTo_of_not_isChargeable ht

/-- Nothing is found before the term that is due. -/
theorem Due.exploresAll_iff (hd : next? stack = some d) :
    ExploresAll stack nodes cycles ↔ ExploresAll d.frames nodes cycles :=
  Due.of_next? (P := fun fs => ExploresAll stack nodes cycles ↔ ExploresAll fs nodes cycles)
    (fun _ _ h => h.trans exploresAll_close)
    (fun _ _ _ _ ht h => h.trans (exploresAll_skip_of_not_isChargeable ht)) hd Iff.rfl

/-- Nothing is found when no term is due. -/
theorem Due.exploresAll_iff_of_eq_none (hd : next? stack = none) :
    ExploresAll stack nodes cycles ↔ nodes = [] ∧ cycles = [] :=
  Due.of_next?_eq_none (P := fun fs => ExploresAll stack nodes cycles ↔ ExploresAll fs nodes cycles)
    (fun _ _ h => h.trans exploresAll_close)
    (fun _ _ _ _ ht h => h.trans (exploresAll_skip_of_not_isChargeable ht)) hd Iff.rfl

end Stack

section Timing

variable {τ : Type} [Seconds τ] {z : Zone τ} {deadline now : τ}

/-! ## What a walk explores -/

/-- What a step finds comes before what is found after it. -/
theorem Due.Steps.exploresAll {d : Due} {s : Step τ} {nodes : List Node}
    {cycles : List (Text × Text)} (h : d.Steps z deadline now s)
    (hrest : ExploresAll (s.opened ++ d.rest) nodes cycles) :
    ExploresAll d.frames (s.node?.toList ++ nodes) (s.cycle?.toList ++ cycles) := by
  cases h with
  | charged ht => exact (exploresAll_skip (Term.target?_eq_none_iff.1 ht)).2 hrest
  | loop ht hp =>
    exact (exploresAll_loop (Term.target?_eq_some_iff.1 ht) hp).2 ⟨cycles, rfl, hrest⟩
  | unusable ht hp =>
    -- A node without a record has no terms to explore.
    exact (exploresAll_node (Term.target?_eq_some_iff.1 ht) hp).2
      ⟨_, nodes, rfl, rfl, rfl, exploresAll_close.2 hrest, rfl⟩
  | @entered link target raw r ht hp =>
    exact (exploresAll_node (Term.target?_eq_some_iff.1 ht) hp).2
      ⟨⟨target, r, d.depth, link, none⟩, nodes, rfl, rfl, rfl, hrest, rfl⟩

/-- A walk that evaluated every term explored the open records. -/
theorem exploresAll_walk {budget : Nat} {frames : List Frame}
    (h : (walk z deadline budget now frames).ending = .completed) :
    ExploresAll frames (walk z deadline budget now frames).nodes
      (walk z deadline budget now frames).cycles := by
  fun_induction walk z deadline budget now frames with
  | case1 now frames hd | case3 budget now frames hd =>
    exact (Due.exploresAll_iff_of_eq_none hd).2 ⟨rfl, rfl⟩
  | case2 => cases h
  | case4 budget now frames d hd e he =>
    rw [attempt_eq_halted_iff] at he
    cases he <;> cases h
  | case5 budget now frames d hd s hs w ih =>
    rw [Due.exploresAll_iff hd, Walk.nodes_cons, Walk.cycles_cons]
    exact (attempt_eq_stepped_iff.1 hs).exploresAll (ih h)

/-- A walk from one record that evaluated every term explored the record. -/
theorem explores_walk {budget : Nat} {domain : Text} {terms : List Term}
    (h : (walk z deadline budget now [⟨domain, terms⟩]).ending = .completed) :
    Explores domain [] terms (walk z deadline budget now [⟨domain, terms⟩]).nodes
      (walk z deadline budget now [⟨domain, terms⟩]).cycles := by
  obtain ⟨below, _, loops, _, hinner, ⟨rfl, rfl⟩, hnodes, hcycles⟩ := exploresAll_walk h
  rw [hnodes, hcycles, List.append_nil, List.append_nil]
  exact hinner

end Timing

end SenderPolicy
