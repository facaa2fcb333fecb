import SenderPolicy.Proofs.Chain.Deadline
import SenderPolicy.Proofs.Chain.Termination

/-!
# A shorter evaluation is cut off, and not changed

With fewer lookups or less time allowed, an evaluation finds the same as before up to the term at
which it is halted. A walk and a longer one are in the same state as long as neither is halted,
whatever the seconds that their lookups may take, so the steps of the one come first among those of
the other (`isCutOf_walk`). Two things need care at the end of the shorter walk: the term at which
it was halted is charged, and may have been looked up already. The longer walk charges it and looks
it up as well.

`truncation_monotone` says what this means for the chains that are returned.
-/

namespace SenderPolicy

/-! ## What a walk looks up and is charged -/

namespace Walk

variable {τ : Type} {w : Walk τ} {s : Step τ}

/-- The domains that a walk looks up. -/
def names (w : Walk τ) : List Text := w.queries.map Query.domain

/-- The domains that a walk looks up are those of its first step and those of the others. -/
theorem names_cons : (Walk.mk (s :: w.steps) w.ending).names =
    (s.query?.map Query.domain).toList ++ w.names := by
  unfold names
  rw [queries_cons, List.map_append]
  cases s.query? <;> rfl

end Walk

section Timing

variable {τ : Type} [Seconds τ]

/-! ## Walks that are cut off -/

namespace Walk

/-- The steps of a walk, whatever the seconds that their lookups may take. -/
def trace (w : Walk τ) : List (Step τ) := w.steps.map (Step.retimed 0)

/-- A walk does what another one does first. -/
structure IsCutOf (w w' : Walk τ) : Prop where
  /-- Its steps are the first steps of the other. -/
  trace : w.trace <+: w'.trace
  /-- It looks up the first of the domains that the other looks up. -/
  names : w.names <+: w'.names
  /-- It is charged no more lookups. -/
  charged : w'.ending.abort? = none → w.charged ≤ w'.charged
  /-- If it evaluated every term, then so did the other, and did nothing else. -/
  completed : w.ending = .completed → w'.ending = .completed ∧ w'.trace = w.trace

variable {w w' : Walk τ} {s s' : Step τ} {e : Ending τ}

/-- A walk that has ended is cut off. -/
theorem isCutOf_refl (h : w.ending = .completed) : w.IsCutOf w where
  trace := List.prefix_rfl
  names := List.prefix_rfl
  charged _ := Nat.le_refl _
  completed _ := ⟨h, rfl⟩

/-- A step that is the same in both walks leaves the one cut off from the other. -/
theorem IsCutOf.cons (h : w.IsCutOf w') (hs : s'.retimed 0 = s.retimed 0) :
    (Walk.mk (s :: w.steps) w.ending).IsCutOf ⟨s' :: w'.steps, w'.ending⟩ where
  trace := by
    show s.retimed 0 :: w.trace <+: s'.retimed 0 :: w'.trace
    rw [hs]
    exact List.cons_prefix_cons.2 ⟨rfl, h.trace⟩
  names := by
    have hname : s'.query?.map Query.domain = s.query?.map Query.domain := by
      rw [← s'.map_domain_query?_retimed 0, hs, s.map_domain_query?_retimed]
    rw [names_cons, names_cons, hname]
    exact (List.prefix_append_right_inj _).2 h.names
  charged ha := by
    rw [charged_cons, charged_cons]
    exact Nat.succ_le_succ (h.charged ha)
  completed hc := by
    obtain ⟨hc', htrace⟩ := h.completed hc
    refine ⟨hc', ?_⟩
    show s'.retimed 0 :: w'.trace = s.retimed 0 :: w.trace
    rw [hs, htrace]

/-- A walk that ends at its first term is cut off from every walk that is charged for this term, if
it looked up nothing or what the other looks up first. -/
theorem isCutOf_of_ending (he : e ≠ .completed)
    (hnames : e.query?.toList.map Query.domain <+: w'.names)
    (hcharged : w'.ending.abort? = none → 1 ≤ w'.charged) : (Walk.mk [] e).IsCutOf w' where
  trace := List.nil_prefix
  names := hnames
  charged ha := by
    have hone : (Walk.mk [] e).charged ≤ 1 := by
      unfold Walk.charged
      cases e.isHalt <;> simp
    exact hone.trans (hcharged ha)
  completed hc := absurd hc he

end Walk

variable {z : Zone τ} {deadline deadline' now : τ} {budget : Nat} {frames : List Frame} {d : Due}

/-- A walk is charged for the term that is due. -/
theorem one_le_charged_walk (hd : Due.next? frames = some d)
    (ha : (walk z deadline budget now frames).ending.abort? = none) :
    1 ≤ (walk z deadline budget now frames).charged := by
  cases budget with
  | zero =>
    simp only [walk, hd]
    exact Nat.le_refl 1
  | succ budget =>
    cases hattempt : attempt z deadline now d with
    | stepped s =>
      rw [walk_of_stepped hd hattempt, Walk.charged_cons]
      exact Nat.succ_pos _
    | halted e =>
      rw [walk_of_halted hd hattempt] at ha ⊢
      cases attempt_eq_halted_iff.1 hattempt with
      | overdue | late => exact Nat.le_refl 1
      | unreadable | broken => cases ha

/-- A walk looks up first what the term that is due is looked up for. -/
theorem prefix_names_walk (budget : Nat) {q : Query τ} (hd : Due.next? frames = some d)
    (hq : (attempt z deadline now d).query? = some q) :
    [q.domain] <+: (walk z deadline (budget + 1) now frames).names := by
  cases hattempt : attempt z deadline now d with
  | stepped s =>
    rw [hattempt] at hq
    have hs : s.query? = some q := hq
    rw [walk_of_stepped hd hattempt, Walk.names_cons, hs]
    exact List.prefix_append _ _
  | halted e =>
    rw [hattempt] at hq
    have he : e.query? = some q := hq
    rw [walk_of_halted hd hattempt]
    simp [Walk.names, Walk.queries, he]

/-- With no more lookups allowed and a deadline that passes no later, a walk is cut off. -/
theorem isCutOf_walk (ho : Outlasts deadline' deadline) : ∀ budget', budget ≤ budget' →
    (walk z deadline budget now frames).IsCutOf (walk z deadline' budget' now frames) := by
  fun_induction walk z deadline budget now frames with
  | case1 now frames hd | case3 budget now frames hd =>
    intro budget' _
    rw [walk_of_next?_eq_none _ hd]
    exact Walk.isCutOf_refl rfl
  | case2 now frames d hd =>
    intro budget' _
    exact Walk.isCutOf_of_ending (by rintro ⟨⟩) List.nil_prefix (one_le_charged_walk hd)
  | case4 budget now frames d hd e he =>
    intro budget' hb
    obtain ⟨rest, rfl⟩ := Nat.exists_eq_add_of_le' hb
    have hh := attempt_eq_halted_iff.1 he
    refine Walk.isCutOf_of_ending (by cases hh <;> rintro ⟨⟩) ?_ (one_le_charged_walk hd)
    cases hq : e.query? with
    | none => exact List.nil_prefix
    | some q =>
      obtain ⟨q', hq', hdomain⟩ := hh.outlast ho hq
      have hfirst := prefix_names_walk (rest + budget) hd hq'
      rwa [hdomain] at hfirst
  | case5 budget now frames d hd s hs w ih =>
    intro budget' hb
    obtain ⟨rest, rfl⟩ := Nat.exists_eq_add_of_le' hb
    -- The step leads both walks to the same records at the same time.
    have hs' := attempt_eq_stepped_iff.2 ((attempt_eq_stepped_iff.1 hs).outlast ho)
    have hlater := ih (rest + budget) (Nat.le_add_left _ _)
    rw [Nat.succ_eq_add_one, ← Nat.add_assoc, walk_of_stepped hd hs', Step.doneAt_retimed,
      Step.opened_retimed]
    exact hlater.cons (Step.retimed_retimed _ _ s)

/-! ## Chains that are cut off -/

/-- A chain found what another one found first. The limit is that of the first. -/
structure Chain.IsCutOf (limit : Nat) (c c' : Chain) : Prop where
  /-- The domains that it met are the first of those that the other met. -/
  nodes : c.nodes <+: c'.nodes
  /-- Its loops are the first loops of the other. -/
  cycles : c.cycles <+: c'.cycles
  /-- Its failures are the first failures of the other. -/
  failures : c.failures <+: c'.failures
  /-- It is charged no more lookups. -/
  lookups_le : c.lookups ≤ c'.lookups
  /-- If it was not halted, the chains are the same. -/
  eq_of_not_halted : c.limitExceeded = false → c.timedOut = false → c = c'
  /-- If its time sufficed, it is charged what the other is charged, up to one lookup more than
  allowed. -/
  lookups_eq : c.timedOut = false → c.lookups = min c'.lookups (limit + 1)

/-- What is found at the steps of a walk does not depend on the seconds that their lookups may take.
-/
theorem Walk.filterMap_trace {α : Type} (w : Walk τ) {f : Step τ → Option α}
    (hf : ∀ s, f (s.retimed 0) = f s) : w.trace.filterMap f = w.steps.filterMap f := by
  have hcomp : f ∘ Step.retimed 0 = f := funext hf
  rw [trace, List.filterMap_map, hcomp]

/-- What is found at the steps of a walk comes first among what is found at the steps of a longer
one. -/
theorem Walk.IsCutOf.filterMap {w w' : Walk τ} {α : Type} {f : Step τ → Option α} (h : w.IsCutOf w')
    (hf : ∀ s, f (s.retimed 0) = f s) : w.steps.filterMap f <+: w'.steps.filterMap f := by
  rw [← w.filterMap_trace hf, ← w'.filterMap_trace hf]
  exact h.trace.filterMap f

/-- A walk that evaluated every term found what every longer one finds. -/
theorem Walk.IsCutOf.chain_eq {w w' : Walk τ} (h : w.IsCutOf w') (hc : w.ending = .completed)
    (records : List Text) (root : Record) : w.chain records root = w'.chain records root := by
  obtain ⟨hc', htrace⟩ := h.completed hc
  have hfound : ∀ {α : Type} (f : Step τ → Option α), (∀ s, f (s.retimed 0) = f s) →
      w.steps.filterMap f = w'.steps.filterMap f := by
    intro α f hf
    rw [← w.filterMap_trace hf, ← w'.filterMap_trace hf, htrace]
  have hlength : w.steps.length = w'.steps.length := by
    have hmapped := congrArg List.length htrace
    simpa [Walk.trace] using hmapped.symm
  have hnodes : w.nodes = w'.nodes := hfound _ fun s => s.node?_retimed 0
  have hcycles : w.cycles = w'.cycles := hfound _ fun s => s.cycle?_retimed 0
  have hfailures : w.failures = w'.failures := hfound _ fun s => s.failure?_retimed 0
  have hcharged : w.charged = w'.charged := by
    rw [Walk.charged, Walk.charged, hc, hc', hlength]
  simp only [chain, nodesFrom, hnodes, hcycles, hfailures, hcharged, hc, hc']

/-- What a walk with a limit found is cut off from what a longer one found. -/
theorem Chain.isCutOf_chain {limit : Nat} {w' : Walk τ}
    (h : (walk z deadline limit now frames).IsCutOf w')
    (ha : (walk z deadline limit now frames).ending.abort? = none) (ha' : w'.ending.abort? = none)
    (records : List Text) (root : Record) :
    Chain.IsCutOf limit ((walk z deadline limit now frames).chain records root)
      (w'.chain records root) where
  nodes := List.cons_prefix_cons.2 ⟨rfl, h.filterMap fun s => s.node?_retimed 0⟩
  cycles := h.filterMap fun s => s.cycle?_retimed 0
  failures := h.filterMap fun s => s.failure?_retimed 0
  lookups_le := Int.ofNat_le.2 (h.charged ha')
  eq_of_not_halted ho ht := h.chain_eq (Ending.eq_completed ha ho ht) records root
  lookups_eq ht := by
    cases ho : (walk z deadline limit now frames).ending.isOverBudget with
    | true =>
      -- It was charged one lookup more than allowed, and the longer walk no less.
      have hcharged := charged_of_isOverBudget ho
      have hle := h.charged ha'
      simp only [Walk.chain]
      omega
    | false =>
      rw [h.chain_eq (Ending.eq_completed ha ho ht) records root]
      have hle := charged_le_of_not_isOverBudget ho
      have hsame := congrArg Chain.lookups (h.chain_eq (Ending.eq_completed ha ho ht) records root)
      simp only [Walk.chain] at hsame ⊢
      omega

/-- A chain in which nothing was met is cut off from itself. -/
theorem Chain.isCutOf_ofDomain (limit : Nat) (domain : Text) (error : Option Text) :
    Chain.IsCutOf limit { ofDomain domain with rootError := error }
      { ofDomain domain with rootError := error } where
  nodes := List.prefix_rfl
  cycles := List.prefix_rfl
  failures := List.prefix_rfl
  lookups_le := Int.le_refl _
  eq_of_not_halted _ _ := rfl
  lookups_eq _ := by
    simp only [ofDomain]
    omega

namespace Chain

variable {limit limit' : Nat} {seconds seconds' : τ} {domain raw : Text} {records : List Text}
  {c c' : Chain}

/-- The expansion of a record is cut off if no more lookups are allowed and the deadline passes no
later. -/
theorem isCutOf_evaluate (hl : limit ≤ limit') (ho : Outlasts deadline' deadline)
    (h : (evaluate z ⟨(limit : Int), seconds⟩ deadline now domain records raw).outcome = .ok c)
    (h' : (evaluate z ⟨(limit' : Int), seconds'⟩ deadline' now domain records raw).outcome =
      .ok c') :
    c.IsCutOf limit c' ∧
      (evaluate z ⟨(limit : Int), seconds⟩ deadline now domain records raw).queries.map
          Query.domain <+:
        (evaluate z ⟨(limit' : Int), seconds'⟩ deadline' now domain records raw).queries.map
          Query.domain := by
  obtain ⟨root, hread, ha, rfl⟩ := evaluate_outcome_iff.1 h
  obtain ⟨root', hread', ha', rfl⟩ := evaluate_outcome_iff.1 h'
  obtain rfl : root = root' := by
    rw [hread] at hread'
    exact Except.ok.inj hread'
  have hcut : (walk z deadline limit now [⟨domain, root.terms⟩]).IsCutOf
      (walk z deadline' limit' now [⟨domain, root.terms⟩]) := isCutOf_walk ho limit' hl
  rw [queries_evaluate hread, queries_evaluate hread]
  exact ⟨isCutOf_chain hcut ha ha' records root, hcut.names⟩

/-- What is found for a domain that publishes no record does not depend on what is allowed. -/
theorem ofAnswer_of_published?_eq_none (hp : z.published? domain = none) (l l' : Limits τ)
    (deadline deadline' now now' : τ) :
    ofAnswer z l deadline now domain (z.answer domain) =
        ofAnswer z l' deadline' now' domain (z.answer domain) ∧
      (ofAnswer z l deadline now domain (z.answer domain)).queries = [] := by
  unfold Zone.published? at hp
  cases ha : z.answer domain with
  | texts texts =>
    rw [ha] at hp
    have hs : selectSpfRecords texts = [] := List.head?_eq_none_iff.1 hp
    simp [ofAnswer, ofTexts, hs]
  | _ => exact ⟨rfl, rfl⟩

/-- Resolving a domain is cut off if no more lookups and no more seconds are allowed. -/
theorem isCutOf_resolve [OrderedSeconds τ] (hl : limit ≤ limit') (hs : seconds ≤ seconds')
    (h : (resolve z ⟨(limit : Int), seconds⟩ now domain).outcome = .ok c)
    (h' : (resolve z ⟨(limit' : Int), seconds'⟩ now domain).outcome = .ok c') :
    c.IsCutOf limit c' ∧
      (resolve z ⟨(limit : Int), seconds⟩ now domain).queries.map Query.domain <+:
        (resolve z ⟨(limit' : Int), seconds'⟩ now domain).queries.map Query.domain := by
  have ho := OrderedSeconds.outlasts_of_le hs now
  obtain ⟨hp, hc⟩ | ⟨texts, raw, others, ha, hselect, he⟩ := resolve_outcome_cases h
  · -- Without a record the two do the same.
    obtain ⟨hsame, hqueries⟩ := ofAnswer_of_published?_eq_none hp ⟨(limit : Int), seconds⟩
      ⟨(limit' : Int), seconds'⟩ (now + seconds) (now + seconds')
      (now + z.delay (normalizeDomain domain)) (now + z.delay (normalizeDomain domain))
    rw [resolve_outcome] at h h'
    rw [hsame, h'] at h
    obtain rfl := Except.ok.inj h
    refine ⟨?_, ?_⟩
    · rw [hc]
      exact isCutOf_ofDomain limit _ _
    · simp only [resolve, List.map_cons, ← hsame, hqueries]
      exact List.prefix_rfl
  · obtain ⟨hp, -⟩ | ⟨texts', raw', others', ha', hselect', he'⟩ := resolve_outcome_cases h'
    · rw [Zone.published?_of_select ha hselect] at hp
      cases hp
    · cases ha.symm.trans ha'
      cases hselect.symm.trans hselect'
      obtain ⟨hcut, hnames⟩ := isCutOf_evaluate hl ho he he'
      refine ⟨hcut, ?_⟩
      simp only [resolve, ha, ofAnswer, (ofTexts_of_select z _ _ _ _ hselect).2, List.map_cons]
      exact List.cons_prefix_cons.2 ⟨rfl, hnames⟩

end Chain

/-- Halting earlier only cuts off what is found. If no more lookups and no more seconds are allowed,
and neither evaluation is aborted, then what the shorter one finds for a domain, or for a record
that is given for it, is what the longer one finds first, and it looks up the same domains first. -/
theorem truncation_monotone [OrderedSeconds τ] (z : Zone τ) (limit limit' : Nat)
    (seconds seconds' now : τ) (domain raw : Text) (hl : limit ≤ limit') (hs : seconds ≤ seconds') :
    (∀ c c', (Chain.resolve z ⟨(limit : Int), seconds⟩ now domain).outcome = .ok c →
      (Chain.resolve z ⟨(limit' : Int), seconds'⟩ now domain).outcome = .ok c' →
        c.IsCutOf limit c' ∧
          (Chain.resolve z ⟨(limit : Int), seconds⟩ now domain).queries.map Query.domain <+:
            (Chain.resolve z ⟨(limit' : Int), seconds'⟩ now domain).queries.map Query.domain) ∧
    (∀ c c', (Chain.preview z ⟨(limit : Int), seconds⟩ now domain raw).outcome = .ok c →
      (Chain.preview z ⟨(limit' : Int), seconds'⟩ now domain raw).outcome = .ok c' →
        c.IsCutOf limit c' ∧
          (Chain.preview z ⟨(limit : Int), seconds⟩ now domain raw).queries.map Query.domain <+:
            (Chain.preview z ⟨(limit' : Int), seconds'⟩ now domain raw).queries.map
              Query.domain) := by
  refine ⟨fun c c' h h' => ?_, fun c c' h h' => ?_⟩
  · exact Chain.isCutOf_resolve hl hs h h'
  · exact Chain.isCutOf_evaluate hl (OrderedSeconds.outlasts_of_le hs now) h h'

end Timing

/-- A zone in which one of two domains does not answer within two seconds. -/
def lateZone : Zone Rat where
  answer domain :=
    if domain = ("a" : Text) then .texts ["v=spf1 include:b include:c -all"]
    else if domain = ("b" : Text) then .timedOut "no answer"
    else .texts ["v=spf1 -all"]
  delay domain := if domain = ("b" : Text) then 2 else 0

/-- With one second the late answer halts the evaluation. With five it is a failure, and the
evaluation goes on. -/
theorem lateZone_cut :
    ∃ c c', (Chain.resolve lateZone ⟨((1 : Nat) : Int), 1⟩ 0 ("a" : Text)).outcome = .ok c ∧
      (Chain.resolve lateZone ⟨((10 : Nat) : Int), 5⟩ 0 ("a" : Text)).outcome = .ok c' ∧
      (c.nodes.length, c.lookups, c.timedOut) = (1, 1, true) ∧
      (c'.nodes.length, c'.lookups, c'.timedOut) = (3, 2, false) ∧
      c.IsCutOf 1 c' := by
  obtain ⟨c, hc, hfound⟩ : ∃ c,
      (Chain.resolve lateZone ⟨((1 : Nat) : Int), 1⟩ 0 ("a" : Text)).outcome = .ok c ∧
        (c.nodes.length, c.lookups, c.timedOut) = (1, 1, true) :=
    exists_ok_of_map_toOption (fun c : Chain => (c.nodes.length, c.lookups, c.timedOut))
      (by decide +kernel)
  obtain ⟨c', hc', hfound'⟩ : ∃ c',
      (Chain.resolve lateZone ⟨((10 : Nat) : Int), 5⟩ 0 ("a" : Text)).outcome = .ok c' ∧
        (c'.nodes.length, c'.lookups, c'.timedOut) = (3, 2, false) :=
    exists_ok_of_map_toOption (fun c : Chain => (c.nodes.length, c.lookups, c.timedOut))
      (by decide +kernel)
  exact ⟨c, c', hc, hc', hfound, hfound',
    ((truncation_monotone lateZone 1 10 1 5 0 ("a" : Text) [] (by decide) (by decide)).1 c c' hc
      hc').1⟩

end SenderPolicy
