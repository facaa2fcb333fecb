import SenderPolicy.Issue.Detection
import SenderPolicy.Proofs.Chain.Branch
import SenderPolicy.Proofs.Chain.Description
import SenderPolicy.Proofs.Issue.Order
import SenderPolicy.Proofs.Record.RoundTrip

/-!
# What a halted expansion leaves

An expansion that is halted tells which terms it has not evaluated. `rest_is_left` says which they
are, in terms of the nodes and their records only: of the record in which it was halted the term at
which it was halted and all that follow it, and of every record around that one the terms that
follow the one being followed.

Where the expansion stands is described by explorations. Of an open record the first terms have been
explored, and of a record around it the term after these is the one being followed (`Followed`). The
walk keeps to this description (`OnCourse.close`, `OnCourse.skip`, `OnCourse.step`), so when it is
halted, the stack of open records holds just the terms that were not explored.
-/

namespace SenderPolicy

/-! ## How far records are read -/

/-- The record of a node, behind the nodes `before`, is read as far as the terms `left`: the terms
before these were explored, and the nodes `after` were found at them. -/
def Node.ReadTo (n : Node) (before after : List Node) (left : List Term) : Prop :=
  ∃ evaluated cycles, n.terms = evaluated ++ left ∧
    Explores n.domain ((n.ancestors before).map Node.domain) evaluated after cycles

/-- The nodes above a node that follows the nodes `before`, the parent first, each with the terms of
its record after the one that is being followed. That one leads to the node, or to the next of the
nodes above it. -/
inductive Followed : (before : List Node) → (n : Node) → (above : List (Node × List Term)) → Prop
  /-- Nothing is above the root. -/
  | root {n : Node} (hdepth : n.depth = 0) : Followed [] n []
  /-- The parent is read as far as the term that the node comes from. -/
  | child {before between : List Node} {p n : Node} {t : Term} {later : List Term}
      {above : List (Node × List Term)} (hread : p.ReadTo before between (t :: later))
      (hfrom : n.ComesFrom t) (hnew : n.domain ∉ p.path before) (hdepth : n.depth = p.depth + 1)
      (habove : Followed before p above) :
      Followed (before ++ p :: between) n ((p, later) :: above)

section ReadTo

variable {n m : Node} {before after : List Node} {t : Term} {terms : List Term}
  {above : List (Node × List Term)}

/-- The nodes that were found at the terms of a record are below its node. -/
theorem Node.ReadTo.length_lt_depth (h : n.ReadTo before after terms) :
    ∀ k ∈ after, (n.ancestors before).length < k.depth := by
  obtain ⟨evaluated, cycles, -, hexplored⟩ := h
  simpa using hexplored.length_lt_depth

/-- The nodes above a node are its ancestors, and it is as deep as there are of them. -/
theorem Followed.ancestors_eq (h : Followed before n above) :
    n.ancestors before = above.map Prod.fst ∧ n.depth = above.length := by
  induction h with
  | root hdepth => exact ⟨rfl, hdepth⟩
  | @child before between p n t later above hread hfrom hnew hdepth _ ih =>
    obtain ⟨hancestors, hp⟩ := ih
    have hlength : (p.ancestors before).length = p.depth := by
      rw [hancestors, List.length_map, hp]
    have hbetween : ∀ k ∈ between, k.depth + 1 ≠ n.depth := by
      intro k hk
      have := hread.length_lt_depth k hk
      omega
    have hparent : n.ancestors (before ++ p :: between) = p :: p.ancestors before :=
      branch_reverse_append_cons hdepth.symm hbetween
    refine ⟨?_, by rw [hdepth, hp, List.length_cons]⟩
    rw [hparent, hancestors, List.map_cons]

/-- A node is as deep as it has ancestors. -/
theorem Followed.depth_eq (h : Followed before n above) :
    n.depth = (n.ancestors before).length := by
  obtain ⟨hancestors, hdepth⟩ := h.ancestors_eq
  rw [hancestors, List.length_map, hdepth]

/-- Nothing of a record has been read that was just opened. -/
theorem Node.readTo_nil (n : Node) (before : List Node) : n.ReadTo before [] n.terms :=
  ⟨[], [], rfl, .done⟩

/-- When the next term has been explored as well, the record is read one term further. -/
theorem Node.ReadTo.snoc {found : List Node} {loops : List (Text × Text)}
    (h : n.ReadTo before after (t :: terms))
    (ht : Explores n.domain ((n.ancestors before).map Node.domain) [t] found loops) :
    n.ReadTo before (after ++ found) terms := by
  obtain ⟨evaluated, cycles, hterms, hexplored⟩ := h
  refine ⟨evaluated ++ [t], cycles ++ loops, ?_, ?_⟩
  · rw [hterms, List.append_assoc, List.singleton_append]
  · exact explores_append_iff.2 ⟨after, found, cycles, loops, hexplored, ht, rfl, rfl⟩

/-- A term that refers to no domain may be passed over. -/
theorem Node.ReadTo.skip (h : n.ReadTo before after (t :: terms))
    (ht : ∀ link name, ¬ t.RefersTo link name) : n.ReadTo before after terms := by
  have hnext := h.snoc (.skip ht .done)
  rwa [List.append_nil] at hnext

/-- A term that leads back to the node or to an ancestor may be passed over. -/
theorem Node.ReadTo.loop {link : Link} {target : Text} (h : n.ReadTo before after (t :: terms))
    (ht : t.RefersTo link target) (hp : target ∈ n.path before) : n.ReadTo before after terms := by
  have hnext := h.snoc (.loop ht hp .done)
  rwa [List.append_nil] at hnext

/-- A term is behind the reader when the node that comes from it is explored to the end. -/
theorem Node.ReadTo.follow {below : List Node} (h : n.ReadTo before after (t :: terms))
    (hn : n.depth = (n.ancestors before).length) (hfrom : m.ComesFrom t)
    (hnew : m.domain ∉ n.path before) (hdepth : m.depth = n.depth + 1)
    (hm : m.ReadTo (before ++ n :: after) below []) :
    n.ReadTo before (after ++ m :: below) terms := by
  obtain ⟨link, hvia, href⟩ := hfrom
  obtain ⟨evaluated, cycles, hterms, hexplored⟩ := hm
  -- The node stands on the path of its parent, so its record was explored on that path.
  have hparent : m.ancestors (before ++ n :: after) = n :: n.ancestors before := by
    refine branch_reverse_append_cons hdepth.symm fun k hk => ?_
    have := h.length_lt_depth k hk
    omega
  have hbelow : Explores m.domain (n.path before) m.terms below cycles := by
    rw [hparent] at hexplored
    rw [hterms, List.append_nil]
    exact hexplored
  have hone := Explores.node href hnew hvia
    (by rw [hdepth, hn, List.length_map]) hbelow .done
  rw [List.append_nil] at hone
  exact h.snoc hone

end ReadTo

/-! ## The stack of open records -/

/-- The open record of a node of which some terms are left. -/
def Node.frame (p : Node × List Term) : Frame := ⟨p.1.domain, p.2⟩

/-- The open records are those of a node and of the nodes above it, and hold the terms of each that
have not been read or followed. -/
def OnCourse (nodes : List Node) : List Frame → Prop
  | [] => True
  | f :: outer => ∃ before n after above, nodes = before ++ n :: after ∧
      n.ReadTo before after f.pending ∧ Followed before n above ∧ f.domain = n.domain ∧
      outer = above.map Node.frame

namespace OnCourse

variable {nodes : List Node} {domain : Text} {t : Term} {terms : List Term} {f : Frame}
  {outer frames : List Frame} {d : Due}

/-- When all terms of a record are read, the record around it is read past the term that was being
followed. -/
theorem close (h : OnCourse nodes (⟨domain, []⟩ :: outer)) : OnCourse nodes outer := by
  obtain ⟨before, n, after, above, rfl, hread, hfollowed, -, rfl⟩ := h
  cases hfollowed with
  | root => trivial
  | @child before between p _ t later above hparent hfrom hnew hdepth habove =>
    have hnext := hparent.follow habove.depth_eq hfrom hnew hdepth hread
    exact ⟨before, p, between ++ n :: after, above, by simp, hnext, habove, rfl, rfl⟩

/-- A term that is charged nothing is read. -/
theorem skip (ht : t.isChargeable = false) (h : OnCourse nodes (⟨domain, t :: terms⟩ :: outer)) :
    OnCourse nodes (⟨domain, terms⟩ :: outer) := by
  obtain ⟨before, n, after, above, hnodes, hread, hrest⟩ := h
  exact ⟨before, n, after, above, hnodes,
    hread.skip fun _ _ => Term.not_refersTo_of_not_isChargeable ht, hrest⟩

/-- When a term is due, it is the next of the innermost record. -/
theorem due (h : OnCourse nodes frames) (hd : Due.next? frames = some d) :
    OnCourse nodes d.frames :=
  Due.of_next? (P := OnCourse nodes) (fun _ _ => close) (fun _ _ _ _ ht => skip ht) hd h

/-- The domains of the open records are those of the node and its ancestors. -/
theorem exists_path (h : OnCourse nodes d.frames) : ∃ before n after above,
    nodes = before ++ n :: after ∧ n.ReadTo before after (d.term :: d.later) ∧
      Followed before n above ∧ d.source = n.domain ∧ d.outer = above.map Node.frame ∧
      d.path = n.path before := by
  obtain ⟨before, n, after, above, hnodes, hread, hfollowed, hsource, houter⟩ := h
  refine ⟨before, n, after, above, hnodes, hread, hfollowed, hsource, houter, ?_⟩
  have hsource' : d.source = n.domain := hsource
  rw [Due.path, Node.path, hsource', houter, hfollowed.ancestors_eq.1, List.map_map, List.map_map]
  rfl

section Timing

variable {τ : Type} [Seconds τ] {z : Zone τ} {deadline now : τ} {s : Step τ}

/-- A step keeps to the course. -/
theorem step (h : OnCourse nodes d.frames) (hs : d.Steps z deadline now s) :
    OnCourse (nodes ++ s.node?.toList) (s.opened ++ d.rest) := by
  obtain ⟨before, n, after, above, rfl, hread, hfollowed, hsource, houter, hpath⟩ := h.exists_path
  have hdepth : d.depth = n.depth + 1 := by
    rw [Due.depth, houter, List.length_map, hfollowed.ancestors_eq.2]
  cases hs with
  | charged ht =>
    have hnext := hread.skip (Term.target?_eq_none_iff.1 ht)
    exact ⟨before, n, after, above, List.append_nil _, hnext, hfollowed, hsource, houter⟩
  | loop ht hp =>
    have hnext := hread.loop (Term.target?_eq_some_iff.1 ht) (hpath ▸ hp)
    exact ⟨before, n, after, above, List.append_nil _, hnext, hfollowed, hsource, houter⟩
  | @unusable link target kind m ht hp htime hz hl =>
    -- A node without a record is read to its end at once.
    let met : Node := ⟨target, none, d.depth, link, m⟩
    have hfrom : met.ComesFrom d.term := ⟨link, rfl, Term.target?_eq_some_iff.1 ht⟩
    have hnext := hread.follow hfollowed.depth_eq hfrom (hpath ▸ hp) hdepth (met.readTo_nil _)
    exact ⟨before, n, after ++ [met], above, by simp [Step.node?, met], hnext, hfollowed, hsource,
      houter⟩
  | @entered link target raw r ht hp htime hz hread' =>
    let met : Node := ⟨target, r, d.depth, link, none⟩
    have hfrom : met.ComesFrom d.term := ⟨link, rfl, Term.target?_eq_some_iff.1 ht⟩
    have hchild : Followed (before ++ n :: after) met ((n, d.later) :: above) :=
      .child hread hfrom (hpath ▸ hp) hdepth hfollowed
    refine ⟨before ++ n :: after, met, [], (n, d.later) :: above, rfl, met.readTo_nil _, hchild,
      rfl, ?_⟩
    rw [List.map_cons, ← houter, Node.frame, ← hsource]
    rfl

end Timing

end OnCourse

/-- The record of the root is open when a walk begins. -/
theorem onCourse_root (root : Record) :
    OnCourse [⟨root.domain, some root, 0, none, none⟩] [⟨root.domain, root.terms⟩] :=
  ⟨[], _, [], [], rfl, Node.readTo_nil _ [], .root rfl, rfl, rfl⟩

/-! ## The place at which a walk is halted -/

/-- An expansion with the nodes `before`, `n` and `after` stands before the term `t` of the node
`n`, of whose record the terms `later` follow. Of the nodes above the node the terms after the one
being followed are left. -/
structure StandsAt (before : List Node) (n : Node) (after : List Node) (t : Term)
    (later : List Term) (above : List (Node × List Term)) : Prop where
  /-- The terms of the record before the term have been explored. -/
  read : n.ReadTo before after (t :: later)
  /-- The nodes above the node are being followed to it. -/
  followed : Followed before n above
  /-- They are the ancestors of the node, up to the root. -/
  ancestors : above.map Prod.fst = n.ancestors before
  /-- The term is charged a lookup. -/
  isChargeable : t.isChargeable = true

/-- The terms that are left when an expansion stands before the term `t` of the node `n`, each with
the domain of its record. -/
def restFrom (n : Node) (t : Term) (later : List Term) (above : List (Node × List Term)) :
    List (Text × Term) :=
  (t :: later).map (n.domain, ·) ++ above.flatMap fun (p, rest) => rest.map (p.domain, ·)

section Timing

variable {τ : Type} [Seconds τ] {z : Zone τ} {deadline now : τ}

/-- A term that is due is the one before which the expansion stands. -/
theorem OnCourse.standsAt {nodes : List Node} {frames : List Frame} {d : Due}
    (h : OnCourse nodes frames) (hd : Due.next? frames = some d) :
    ∃ before n after above, nodes = before ++ n :: after ∧
      StandsAt before n after d.term d.later above ∧
      d.unresolved = restFrom n d.term d.later above ∧ d.path = n.path before := by
  obtain ⟨before, n, after, above, hnodes, hread, hfollowed, hsource, houter, hpath⟩ :=
    (h.due hd).exists_path
  refine ⟨before, n, after, above, hnodes, ?_, ?_, hpath⟩
  · exact ⟨hread, hfollowed, hfollowed.ancestors_eq.1.symm, Due.isChargeable_of_next? hd⟩
  · rw [Due.unresolved, Due.rest, restFrom, houter, hsource, List.flatMap_cons, List.flatMap_map]
    rfl

/-- A term at which an expansion ran out of time refers to a domain whose record was not open. -/
theorem Due.Halts.refersTo {d : Due} {e : Ending τ} (h : d.Halts z deadline now e)
    (he : e.isOutOfTime = true) :
    (∃ link target, d.term.RefersTo link target ∧ target ∉ d.path) ∧
      remaining deadline (z.after now e.query?.toList) ≤ 0 ∧ e.unresolved = d.unresolved := by
  cases h with
  | overdue ht hp hr => exact ⟨⟨_, _, Term.target?_eq_some_iff.1 ht, hp⟩, hr, rfl⟩
  | late ht hp hr hz hl => exact ⟨⟨_, _, Term.target?_eq_some_iff.1 ht, hp⟩, hl, rfl⟩
  | unreadable | broken => cases he

/-- A walk that was halted left the terms from the one on before which it stood. If it ran out of
time, the term was to be followed, and no time was left when the last lookup was answered. -/
theorem exists_standsAt_walk {budget : Nat} {frames : List Frame}
    (hhalt : (walk z deadline budget now frames).ending.isHalt = true) : ∀ nodes : List Node,
    OnCourse nodes frames → ∃ before n after t later above,
      nodes ++ (walk z deadline budget now frames).nodes = before ++ n :: after ∧
      StandsAt before n after t later above ∧
      (walk z deadline budget now frames).ending.unresolved = restFrom n t later above ∧
      ((walk z deadline budget now frames).ending.isOutOfTime = true →
        (∃ link target, t.RefersTo link target ∧ target ∉ n.path before) ∧
          remaining deadline (z.after now (walk z deadline budget now frames).queries) ≤ 0) := by
  fun_induction walk z deadline budget now frames with
  | case1 | case3 => cases hhalt
  | case2 now frames d hd =>
    intro nodes h
    obtain ⟨before, n, after, above, rfl, hstands, hrest, -⟩ := h.standsAt hd
    refine ⟨before, n, after, d.term, d.later, above, List.append_nil _, hstands, hrest, ?_⟩
    exact fun ht => absurd ht Bool.false_ne_true
  | case4 budget now frames d hd e he =>
    intro nodes h
    obtain ⟨before, n, after, above, rfl, hstands, hrest, hpath⟩ := h.standsAt hd
    have hout : e.isOutOfTime = true := by
      cases attempt_eq_halted_iff.1 he with
      | overdue | late => rfl
      | unreadable | broken => cases hhalt
    obtain ⟨href, hlate, hunresolved⟩ := (attempt_eq_halted_iff.1 he).refersTo hout
    rw [hpath] at href
    exact ⟨before, n, after, d.term, d.later, above, List.append_nil _, hstands,
      hunresolved.trans hrest, fun _ => ⟨href, hlate⟩⟩
  | case5 budget now frames d hd s hs w ih =>
    intro nodes h
    obtain ⟨before, n, after, t, later, above, hnodes, hstands, hrest, htime⟩ :=
      ih hhalt _ ((h.due hd).step (attempt_eq_stepped_iff.1 hs))
    refine ⟨before, n, after, t, later, above, ?_, hstands, hrest, fun ht => ?_⟩
    · rw [Walk.nodes_cons, ← List.append_assoc]
      exact hnodes
    · rw [Walk.queries_cons, Zone.after_append]
      exact htime ht

end Timing

/-! ## Version tags -/

/-- The version tag is no term that is read. -/
theorem Term.read_ne_version {token : Text} : Term.read token ≠ .ok .version := by
  intro h
  obtain ⟨q, m, ht, -⟩ | ⟨v, ht, -⟩ | ⟨ht, -⟩ := read_eq_ok_cases h <;> cases ht

/-- The version tag of a record is its first term. -/
theorem Record.version_notMem_tail {raw domain : Text} {r : Record}
    (h : Record.read raw domain = .ok r) : Term.version ∉ r.terms.tail := by
  cases hraw : isSpfRecord raw with
  | false =>
    simp only [Record.read, hraw, Bool.false_eq_true, if_false] at h
    cases h
    exact List.not_mem_nil
  | true =>
    obtain ⟨ts, hterms, hread⟩ := exists_terms_eq hraw h
    rw [hterms, List.tail_cons]
    intro hmem
    obtain ⟨token, -, htoken⟩ := hread _ hmem
    exact Term.read_ne_version htoken

/-- No version tag stands behind a term that is charged. -/
theorem Node.ReadTo.version_notMem {n : Node} {before after : List Node} {t : Term}
    {later : List Term} (h : n.ReadTo before after (t :: later))
    (hn : Term.version ∉ n.terms.tail) : Term.version ∉ later := by
  obtain ⟨evaluated, cycles, hterms, -⟩ := h
  intro hmem
  refine hn ?_
  rw [hterms]
  cases evaluated with
  | nil => exact hmem
  | cons u evaluated =>
    exact List.mem_append_right _ (List.mem_cons_of_mem _ hmem)

/-- No version tag is left behind the terms that are being followed. -/
theorem Followed.version_notMem {before : List Node} {n : Node} {above : List (Node × List Term)}
    (h : Followed before n above) (hnodes : ∀ k ∈ before, Term.version ∉ k.terms.tail) :
    ∀ p ∈ above, Term.version ∉ p.2 := by
  induction h with
  | root => exact fun p hp => absurd hp List.not_mem_nil
  | child hread hfrom hnew hdepth habove ih =>
    rw [List.forall_mem_append, List.forall_mem_cons] at hnodes
    rw [List.forall_mem_cons]
    exact ⟨hread.version_notMem hnodes.2.1, ih hnodes.1⟩

/-- No version tag is left where an expansion stands. -/
theorem StandsAt.version_notMem {before after : List Node} {n : Node} {t : Term}
    {later : List Term} {above : List (Node × List Term)}
    (h : StandsAt before n after t later above)
    (hnodes : ∀ k ∈ before ++ n :: after, Term.version ∉ k.terms.tail) :
    ∀ p ∈ restFrom n t later above, p.2 ≠ .version := by
  rw [List.forall_mem_append, List.forall_mem_cons] at hnodes
  have hlater := h.read.version_notMem hnodes.2.1
  have habove := h.followed.version_notMem hnodes.1
  have hcharged := h.isChargeable
  rintro ⟨source, u⟩ hp rfl
  rcases List.mem_append.1 hp with hp | hp
  · obtain ⟨u, hu, heq⟩ := List.mem_map.1 hp
    cases heq
    rcases List.mem_cons.1 hu with rfl | hu
    · -- The version tag is charged nothing.
      cases hcharged
    · exact hlater hu
  · obtain ⟨⟨k, rest⟩, hk, hp⟩ := List.mem_flatMap.1 hp
    obtain ⟨u, hu, heq⟩ := List.mem_map.1 hp
    cases heq
    exact habove _ hk hu

/-! ## What a chain leaves -/

/-- The wording of a timeout after which a number of terms is left. -/
def timeoutMessage (left : Nat) : Text :=
  ("SPF Resolution Timed Out: " : Text) ++ toString left ++ " terms not evaluated"

/-- The messages by which a chain tells that it ran out of time, with any number of lookups allowed
to its record. -/
def Chain.timeoutMessages (c : Chain) (limit : LookupLimit) : List Text :=
  ((c.issues limit).filter fun i => i.kind = .resolutionTimeout).map Issue.message

/-- A chain that ran out of time tells it once, with the number of the terms that are left. -/
theorem Chain.timeoutMessages_eq {c : Chain} {root : Record} (hroot : c.root = some root)
    (limit : LookupLimit) : c.timeoutMessages limit =
      if c.timedOut then [timeoutMessage c.unresolved.length] else [] := by
  rw [timeoutMessages, issues, hroot, filter_resolutionTimeout, timeoutIssues]
  split
  · have htitle : ("SPF Resolution Timed Out: " : Text) = "SPF Resolution Timed Out" ++ ": " := rfl
    rw [timeoutMessage, htitle, List.append_assoc]
    rfl
  · rfl

section Timing

variable {τ : Type} [Seconds τ] {z : Zone τ} {deadline now : τ}

/-- What is left of an expansion that was halted, of which the first lookup was made at the time
`now`. -/
structure Chain.LeavesRest (c : Chain) (z : Zone τ) (l : Limits τ) (now : τ)
    (lookups : List (Query τ)) : Prop where
  /-- The expansion stands before a term, and that term and all after it are left. The term would
  have been charged beyond the limit; or it was to be followed, and no time was left for it. -/
  rest : ∃ before n after t later above, c.nodes = before ++ n :: after ∧
    StandsAt before n after t later above ∧ c.unresolved = restFrom n t later above ∧
    (c.limitExceeded = true → c.lookups = l.lookups.most.toNat + 1) ∧
    (c.timedOut = true → (∃ link target, t.RefersTo link target ∧ target ∉ n.path before) ∧
      remaining (now + l.seconds) (z.after now lookups) ≤ 0)
  /-- The chargeable terms that are not left are as many as the lookups charged, but for that of the
  term before which the expansion stands. -/
  charged : (c.terms.countP Term.isChargeable : Int) =
    (c.lookups - 1) + c.unresolvedTerms.countP Term.isChargeable
  /-- No version tag is left. -/
  version : ∀ p ∈ c.unresolved, p.2 ≠ .version
  /-- If the time ran out, the number of the terms that are left is told. -/
  message : ∀ limit : LookupLimit, c.timeoutMessages limit =
    if c.timedOut then [timeoutMessage c.unresolved.length] else []

/-- The chargeable terms that a walk from a root has not left are as many as the lookups charged,
but for that of the halt. -/
theorem countP_isChargeable_chain_walk {budget : Nat} {domain : Text} (records : List Text)
    {root : Record} {w : Walk τ} (hw : w = walk z deadline budget now [⟨domain, root.terms⟩])
    (ha : w.ending.abort? = none) :
    ((w.chain records root).terms.countP Term.isChargeable : Int) =
      (w.chain records root).lookups - (w.chain records root).haltCharge +
        (w.chain records root).unresolvedTerms.countP Term.isChargeable := by
  subst hw
  have hbalance := countP_terms_chain_walk (p := Term.isChargeable) (fun t ht => ht) (fun _ => 1)
    (fun d now s ht _ => by rw [ht]; rfl) records ha
  have hsteps := (walk z deadline budget now [⟨domain, root.terms⟩]).length_steps_eq records root
  rw [List.map_const', List.sum_replicate_nat, Nat.mul_one] at hbalance
  rw [← hsteps, hbalance, Int.natCast_add]

/-- The version tags of the records that a walk meets are their first terms. -/
theorem version_notMem_of_mem_nodes_walk {budget : Nat} {frames : List Frame} {n : Node}
    (hn : n ∈ (walk z deadline budget now frames).nodes) : Term.version ∉ n.terms.tail := by
  cases hr : n.record with
  | none =>
    rw [Node.terms, hr]
    exact List.not_mem_nil
  | some r =>
    obtain ⟨-, raw, -, hread⟩ := (describes_of_mem_nodes_walk hn).record r hr
    rw [Node.terms, hr]
    exact Record.version_notMem_tail hread

/-- A walk from a root that was halted left the rest of what was to be evaluated. Other lookups may
have been made before it. -/
theorem leavesRest_chain_walk {l : Limits τ} {start : τ} (first : List (Query τ))
    (records : List Text) {raw domain : Text} {root : Record}
    (hread : Record.read raw domain = .ok root) {w : Walk τ}
    (hw : w = walk z (start + l.seconds) l.lookups.most.toNat (z.after start first)
      [⟨root.domain, root.terms⟩]) (ha : w.ending.abort? = none)
    (hhalt : (w.chain records root).limitExceeded = true ∨ (w.chain records root).timedOut = true) :
    (w.chain records root).LeavesRest z l start (first ++ w.queries) := by
  have hended : w.ending.isHalt = true := by
    rcases hhalt with h | h
    all_goals
      simp only [Walk.chain] at h
      cases he : w.ending <;> rw [he] at h <;> first | rfl | cases h
  have hcharge : (w.chain records root).haltCharge = 1 := by
    rw [Chain.haltCharge, if_pos (by simpa using hhalt)]
  have hnodes : (w.chain records root).nodes =
      [⟨root.domain, some root, 0, none, none⟩] ++ w.nodes := rfl
  subst hw
  obtain ⟨before, n, after, t, later, above, hsplit, hstands, hrest, htime⟩ :=
    exists_standsAt_walk hended _ (onCourse_root root)
  rw [← hnodes] at hsplit
  -- Every record of the chain was read from a text.
  have hversion : ∀ k ∈ before ++ n :: after, Term.version ∉ k.terms.tail := by
    rw [← hsplit, hnodes, List.singleton_append, List.forall_mem_cons]
    exact ⟨Record.version_notMem_tail hread, fun k hk => version_notMem_of_mem_nodes_walk hk⟩
  refine ⟨⟨before, n, after, t, later, above, hsplit, hstands, hrest, fun ho => ?_, fun ht => ?_⟩,
    ?_, ?_, ?_⟩
  · have hcharged := charged_of_isOverBudget ho
    simp only [Walk.chain, hcharged]
    push_cast
    rfl
  · rw [Zone.after_append]
    exact htime ht
  · have hbalance := countP_isChargeable_chain_walk records rfl ha
    rw [hcharge] at hbalance
    exact hbalance
  · show ∀ p ∈ Ending.unresolved _, p.2 ≠ .version
    rw [hrest]
    exact hstands.version_notMem hversion
  · exact fun limit => Chain.timeoutMessages_eq rfl limit

/-- A chain whose expansion was halted has a root. -/
theorem Chain.exists_root_of_halted {l : Limits τ} (domain raw : Text) {c : Chain}
    (h : (resolve z l now domain).outcome = .ok c ∨ (preview z l now domain raw).outcome = .ok c)
    (hhalt : c.limitExceeded = true ∨ c.timedOut = true) : ∃ root, c.root = some root := by
  rcases h with h | h
  · rcases resolve_outcome_cases h with ⟨-, hc⟩ | ⟨texts, raw, others, -, -, he⟩
    · -- A chain without a root was not halted.
      rw [hc] at hhalt
      rcases hhalt with h | h <;> cases h
    · obtain ⟨root, -, -, hchain⟩ := evaluate_outcome_iff.1 he
      exact ⟨root, by rw [← hchain]; rfl⟩
  · obtain ⟨root, -, -, hchain⟩ := evaluate_outcome_iff.1 h
    exact ⟨root, by rw [← hchain]; rfl⟩

/-- What a halted expansion leaves is the rest of what it would have evaluated, depth first, whether
a domain is resolved or a record is previewed. -/
theorem rest_is_left (z : Zone τ) (l : Limits τ) (now : τ) (domain raw : Text) (c : Chain)
    (hhalt : c.limitExceeded = true ∨ c.timedOut = true) :
    ((Chain.resolve z l now domain).outcome = .ok c →
      c.LeavesRest z l now (Chain.resolve z l now domain).queries) ∧
    ((Chain.preview z l now domain raw).outcome = .ok c →
      c.LeavesRest z l now (Chain.preview z l now domain raw).queries) := by
  constructor
  · intro h
    obtain ⟨root, hroot⟩ := Chain.exists_root_of_halted domain raw (.inl h) hhalt
    obtain ⟨records, text, w, hw, hread, habort, rfl, hqueries⟩ := Chain.resolve_of_root h hroot
    rw [← Record.domain_of_read hread] at hw
    rw [hqueries]
    exact leavesRest_chain_walk [⟨normalizeDomain domain, remaining (now + l.seconds) now⟩] records
      hread
      (by rw [hw, Record.domain_of_read hread]; rfl) habort hhalt
  · intro h
    obtain ⟨root, hroot⟩ := Chain.exists_root_of_halted domain raw (.inr h) hhalt
    obtain ⟨w, hw, hread, habort, rfl, hqueries⟩ := Chain.preview_of_root h hroot
    rw [← Record.domain_of_read hread] at hw
    rw [hqueries]
    exact leavesRest_chain_walk [] [raw] hread hw habort hhalt

end Timing

/-- A zone in which the time runs out three records deep. -/
def deepZone : Zone Rat where
  answer domain :=
    if domain = ("a" : Text) then .texts ["v=spf1 ip4:192.0.2.1 include:b include:e -all"]
    else if domain = ("b" : Text) then .texts ["v=spf1 mx redirect=c ip4:192.0.2.2 a"]
    else if domain = ("c" : Text) then .texts ["v=spf1 include:a include:d ?all"]
    else .timedOut "no answer"
  delay _ := 1

/-- With four seconds allowed, the lookup of the fourth domain is not answered in time. Of all three
records terms are left, those that are charged nothing among them. -/
theorem deepZone_rest :
    ∃ c, (Chain.resolve deepZone ⟨(10 : Int), 4⟩ 0 ("a" : Text)).outcome = .ok c ∧
      c.unresolved.map (fun p => (p.1, p.2.render)) =
        [(("c" : Text), ("include:d" : Text)), ("c", "?all"), ("b", "ip4:192.0.2.2"), ("b", "a"),
          ("a", "include:e"), ("a", "-all")] ∧
      c.timeoutMessages (10 : Int) =
        [("SPF Resolution Timed Out: 6 terms not evaluated" : Text)] := by
  obtain ⟨c, hc, hfound⟩ : ∃ c,
      (Chain.resolve deepZone ⟨(10 : Int), 4⟩ 0 ("a" : Text)).outcome = .ok c ∧
        (c.timedOut, c.unresolved.map fun p => (p.1, p.2.render)) = (true,
          [(("c" : Text), ("include:d" : Text)), ("c", "?all"), ("b", "ip4:192.0.2.2"), ("b", "a"),
            ("a", "include:e"), ("a", "-all")]) :=
    exists_ok_of_map_toOption
      (fun c : Chain => (c.timedOut, c.unresolved.map fun p => (p.1, p.2.render)))
      (by decide +kernel)
  obtain ⟨htimedOut, hunresolved⟩ := Prod.mk.inj hfound
  have hlength : c.unresolved.length = 6 := by
    have hmap := congrArg List.length hunresolved
    rwa [List.length_map] at hmap
  have hleft := (rest_is_left deepZone ⟨(10 : Int), 4⟩ 0 "a" [] c (.inr htimedOut)).1 hc
  refine ⟨c, hc, hunresolved, ?_⟩
  rw [hleft.message, htimedOut, hlength]
  decide +kernel

end SenderPolicy
