import SenderPolicy.Proofs.Chain.Branch

/-!
# What is open when a term is evaluated

A walk does not keep what was open at its steps. `evaluations` keeps it, for every term that the
walk evaluates, the one that ends the walk included, and `openLookups` for every lookup. When a term
is evaluated, the open records are a branch of the nodes met so far, with the root outermost
(`open_of_mem_evaluations`). So the term is held by the node on whose path the domains of these
records are (`OnBranch.refersFrom`).
-/

namespace SenderPolicy

/-! ## The node that holds a term -/

/-- A node holds a reference: of the nodes, one with the path `path` has a term that refers to
`target`. -/
def RefersFrom (nodes : List Node) (path : List Text) (target : Text) : Prop :=
  ∃ before n after t link, nodes = before ++ n :: after ∧ n.path before = path ∧ t ∈ n.terms ∧
    t.RefersTo link target

/-- Nodes that follow change nothing about a reference. -/
theorem RefersFrom.append {nodes : List Node} {path : List Text} {target : Text}
    (h : RefersFrom nodes path target) (more : List Node) :
    RefersFrom (nodes ++ more) path target := by
  obtain ⟨before, n, after, t, link, rfl, hpath, ht, href⟩ := h
  exact ⟨before, n, after ++ more, t, link, by simp, hpath, ht, href⟩

/-- The term that is due is held by the node whose path is that of the open records. -/
theorem OnBranch.refersFrom {nodes : List Node} {d : Due} {link : Link} {target : Text}
    (h : OnBranch nodes d.frames) (ht : d.term.target? = some (link, target)) :
    RefersFrom nodes d.path target := by
  obtain ⟨before, n, inner, hnodes, ho, hbranch, -⟩ := h.exists_parent
  obtain ⟨r, evaluated, -, hr, hterms, -⟩ := ho.pending
  have hopen := h.map_domain_branch
  rw [Due.frames, List.length_cons, hbranch] at hopen
  refine ⟨before, n, inner, d.term, link, hnodes, hopen, ?_, Term.target?_eq_some_iff.1 ht⟩
  rw [Node.terms, hr]
  simp [hterms]

/-! ## The root -/

/-- The outermost of the open records, if there is one, is that of `root`. -/
def RootedAt (root : Text) (frames : List Frame) : Prop :=
  ∀ name, (frames.map Frame.domain).getLast? = some name → name = root

/-- Closing records does not close the root before the others. -/
theorem RootedAt.close {root : Text} {f : Frame} {outer : List Frame}
    (h : RootedAt root (f :: outer)) : RootedAt root outer := by
  intro name hname
  refine h name ?_
  rw [List.map_cons, List.getLast?_cons, hname]
  rfl

/-- The root is open when a term is due. -/
theorem RootedAt.mem_path {root : Text} {d : Due} (h : RootedAt root d.frames) : root ∈ d.path := by
  obtain ⟨name, hname⟩ : ∃ name, d.path.getLast? = some name :=
    Option.isSome_iff_exists.1 (by simp [Due.path])
  rw [← h name hname]
  exact List.mem_of_getLast? hname

/-- The root is outermost when a term is due. -/
theorem RootedAt.due {root : Text} {frames : List Frame} {d : Due} (h : RootedAt root frames)
    (hd : Due.next? frames = some d) : RootedAt root d.frames :=
  Due.of_next? (P := RootedAt root) (fun _ _ => close) (fun _ _ _ _ _ h => h) hd h

/-- The root is outermost after a step. -/
theorem RootedAt.step {τ : Type} {root : Text} {d : Due} (h : RootedAt root d.frames)
    (s : Step τ) : RootedAt root (s.opened ++ d.rest) := by
  have hlast : ((s.opened ++ d.rest).map Frame.domain).getLast? = d.path.getLast? := by
    rw [List.map_append]
    exact List.getLast?_append_of_ne_nil _ (by simp [Due.rest])
  intro name hname
  rw [hlast] at hname
  exact h name hname

section Timing

variable {τ : Type} [Seconds τ]

/-! ## Evaluations -/

/-- The terms that a walk evaluates, each with what was open at the time and with what its
evaluation led to. -/
def evaluations (z : Zone τ) (deadline : τ) : (budget : Nat) → (now : τ) → List Frame →
    List (Due × Attempt τ)
  | 0, _, _ => []
  | budget + 1, now, frames =>
    match Due.next? frames with
    | none => []
    | some d =>
      match attempt z deadline now d with
      | .halted e => [(d, .halted e)]
      | .stepped s =>
        (d, .stepped s) :: evaluations z deadline budget (s.doneAt z now) (s.opened ++ d.rest)

/-- The lookups that a walk makes, each with the domains of the records that are open at the time,
the innermost first. -/
def openLookups (z : Zone τ) (deadline : τ) (budget : Nat) (now : τ) (frames : List Frame) :
    List (List Text × Query τ) :=
  (evaluations z deadline budget now frames).filterMap fun (d, a) => a.query?.map (d.path, ·)

variable {z : Zone τ} {deadline now : τ} {budget : Nat} {frames : List Frame}

/-- The lookups of a walk are those of the terms that it evaluates. -/
theorem filterMap_query?_evaluations :
    (evaluations z deadline budget now frames).filterMap (fun p => p.2.query?) =
      (walk z deadline budget now frames).queries := by
  fun_induction walk z deadline budget now frames with
  | case1 | case2 => rfl
  | case3 budget now frames hd =>
    rw [evaluations, hd]
    rfl
  | case4 budget now frames d hd e he =>
    simp only [evaluations, hd, he, List.filterMap_cons, List.filterMap_nil]
    cases hq : e.query? <;> simp [Walk.queries, Attempt.query?, hq]
  | case5 budget now frames d hd s hs w ih =>
    rw [Walk.queries_cons, ← ih]
    simp only [evaluations, hd, hs, List.filterMap_cons]
    cases hq : s.query? <;> simp [Attempt.query?, hq]

/-- Without what is open, the lookups that a walk makes are just its lookups. -/
theorem map_snd_openLookups : (openLookups z deadline budget now frames).map Prod.snd =
    (walk z deadline budget now frames).queries := by
  rw [← filterMap_query?_evaluations, openLookups, List.map_filterMap]
  refine List.filterMap_congr fun ⟨d, a⟩ _ => ?_
  cases hq : a.query? <;> simp [hq]

/-- Every step of a walk is the evaluation of a term. -/
theorem exists_evaluation_of_mem_steps {s : Step τ}
    (hs : s ∈ (walk z deadline budget now frames).steps) :
    ∃ d, (d, .stepped s) ∈ evaluations z deadline budget now frames := by
  fun_induction walk z deadline budget now frames with
  | case1 | case2 | case3 | case4 => cases hs
  | case5 budget now frames d hd s' hs' w ih =>
    simp only [evaluations, hd, hs']
    rcases List.mem_cons.1 hs with rfl | hs
    · exact ⟨d, List.mem_cons_self⟩
    · obtain ⟨d', hd'⟩ := ih hs
      exact ⟨d', List.mem_cons_of_mem _ hd'⟩

/-- When a term is evaluated, the open records are a branch of the nodes met so far, with the root
outermost. -/
theorem open_of_mem_evaluations {root : Text} {d : Due} {a : Attempt τ}
    (hmem : (d, a) ∈ evaluations z deadline budget now frames) : ∀ nodes, OnBranch nodes frames →
      RootedAt root frames → ∃ start met more, attempt z deadline start d = a ∧
        OnBranch met d.frames ∧ RootedAt root d.frames ∧
        nodes ++ (walk z deadline budget now frames).nodes = met ++ more := by
  fun_induction walk z deadline budget now frames with
  | case1 | case2 => cases hmem
  | case3 budget now frames hd =>
    rw [evaluations, hd] at hmem
    cases hmem
  | case4 budget now frames d' hd e he =>
    intro nodes h hroot
    simp only [evaluations, hd, he, List.mem_singleton] at hmem
    cases hmem
    exact ⟨now, nodes, _, he, h.due hd, hroot.due hd, rfl⟩
  | case5 budget now frames d' hd s hs w ih =>
    intro nodes h hroot
    simp only [evaluations, hd, hs] at hmem
    rcases List.mem_cons.1 hmem with heq | hmem
    · cases heq
      exact ⟨now, nodes, _, hs, h.due hd, hroot.due hd, rfl⟩
    · -- A later evaluation is one of the rest of the walk, which the step leaves on its branch.
      have hstep := attempt_eq_stepped_iff.1 hs
      rw [Walk.nodes_cons, ← List.append_assoc]
      exact ih hmem _ ((h.due hd).step hstep) ((hroot.due hd).step s)

end Timing

end SenderPolicy
