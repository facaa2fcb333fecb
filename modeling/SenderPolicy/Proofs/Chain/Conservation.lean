import Mathlib.Algebra.GroupWithZero.Nat
import SenderPolicy.Proofs.Chain.Expansion
import SenderPolicy.Proofs.Chain.Pending

/-!
# Terms are conserved

The terms of the records that a walk meets are either evaluated or left unresolved. The walk keeps
no account of this. It counts the lookups charged, and lists the domains met, the loops and the
terms that were left, each in its own place. `countP_pending_walk` is the balance of all of them,
for any property of terms that only charged terms have: what the open records hold and what is met
on the way comes to what was evaluated and what is left. One step keeps the balance because the term
that is due is the only one that it takes away (`Due.countP_pending`).

With the terms that are charged, this gives the lookups (`terms_conserved`); with those that are
followed, the domains and loops.
-/

namespace SenderPolicy

namespace Chain

variable (c : Chain)

/-- The terms of all records that were met. -/
def terms : List Term := c.nodes.flatMap Node.terms

/-- The terms that were left unresolved. -/
def unresolvedTerms : List Term := c.unresolved.map Prod.snd

/-- The lookup charged for the term at which the expansion was halted, if it was. -/
def haltCharge : Nat := if c.limitExceeded || c.timedOut then 1 else 0

end Chain

/-! ## The balance of one step -/

section Count

variable {p : Term → Bool} (hp : ∀ t, p t = true → t.isChargeable = true)

include hp

/-- Of the terms of open records, only the one that is due is taken away by its evaluation, if only
charged terms count. -/
theorem Due.countP_pending {frames : List Frame} {d : Due} (hd : next? frames = some d) :
    (pendingTerms frames).countP p =
      (pendingTerms d.rest).countP p + if p d.term then 1 else 0 := by
  have hdue : (pendingTerms d.frames).countP p = (pendingTerms frames).countP p := by
    refine of_next? (P := fun fs => (pendingTerms fs).countP p = (pendingTerms frames).countP p)
      (fun domain outer h => h) (fun domain t terms outer ht h => ?_) hd rfl
    -- A term that is passed over is charged nothing, so it does not count.
    have hnot : ¬ p t = true := fun h => by rw [hp t h] at ht; cases ht
    simpa [pendingTerms, hnot] using h
  rw [← hdue]
  simp only [Due.frames, Due.rest, pendingTerms, List.flatMap_cons, List.cons_append,
    List.countP_cons]

/-- Records without a term that is due have no terms left that count. -/
theorem Due.countP_pending_of_eq_none {frames : List Frame} (hd : next? frames = none) :
    (pendingTerms frames).countP p = 0 := by
  refine (of_next?_eq_none (P := fun fs => (pendingTerms fs).countP p =
    (pendingTerms frames).countP p) (fun domain outer h => h)
    (fun domain t terms outer ht h => ?_) hd rfl).symm
  have hnot : ¬ p t = true := fun h => by rw [hp t h] at ht; cases ht
  simpa [pendingTerms, hnot] using h

end Count

/-- What is left when a term that is due is not evaluated: the term and those that are pending after
it. -/
theorem Due.map_snd_unresolved (d : Due) :
    d.unresolved.map Prod.snd = d.term :: pendingTerms d.rest := by
  simp only [unresolved, pendingTerms, List.map_cons, List.map_flatMap, List.map_map,
    Function.comp_def, List.map_id']

section Timing

variable {τ : Type} [Seconds τ] {z : Zone τ} {deadline now : τ}

/-- The record that is opened is that of the domain that is met, if any. -/
theorem Due.Steps.terms_node {d : Due} {s : Step τ} (h : d.Steps z deadline now s) :
    s.node?.toList.flatMap Node.terms = pendingTerms s.opened := by
  cases h <;> rfl

/-- A term that is followed meets a domain or leads back to one, and no other term does. -/
theorem Due.Steps.isFollowable {d : Due} {s : Step τ} (h : d.Steps z deadline now s) :
    s.node?.toList.length + s.cycle?.toList.length = if d.term.isFollowable then 1 else 0 := by
  rw [Term.isFollowable_eq]
  cases h with
  | charged ht => rw [ht]; rfl
  | loop ht | unusable ht | entered ht => rw [ht]; rfl

/-! ## The balance of a walk -/

/-- What the open records hold and what a walk meets comes to what it evaluates and what it leaves.
Terms count that have a property of charged terms only, and steps by what their terms count. -/
theorem countP_pending_walk {p : Term → Bool} (hp : ∀ t, p t = true → t.isChargeable = true)
    (evaluated : Step τ → Nat)
    (he : ∀ (d : Due) (now : τ) (s : Step τ), d.term.isChargeable = true →
      d.Steps z deadline now s → evaluated s = if p d.term then 1 else 0)
    {budget : Nat} {frames : List Frame}
    (ha : (walk z deadline budget now frames).ending.abort? = none) :
    (pendingTerms frames).countP p +
        ((walk z deadline budget now frames).nodes.flatMap Node.terms).countP p =
      ((walk z deadline budget now frames).steps.map evaluated).sum +
        ((walk z deadline budget now frames).ending.unresolved.map Prod.snd).countP p := by
  have hleft : ∀ {fs : List Frame} {d : Due}, Due.next? fs = some d →
      (d.unresolved.map Prod.snd).countP p = (pendingTerms fs).countP p := by
    intro fs d hd
    rw [Due.map_snd_unresolved, List.countP_cons, Due.countP_pending hp hd]
  fun_induction walk z deadline budget now frames with
  | case1 now frames hd | case3 budget now frames hd =>
    rw [Due.countP_pending_of_eq_none hp hd]
    rfl
  | case2 now frames d hd =>
    -- Nothing is evaluated any more, and all that is pending is left.
    simp only [Walk.nodes, Ending.unresolved, hleft hd, List.filterMap_nil, List.flatMap_nil,
      List.countP_nil, List.map_nil, List.sum_nil]
    omega
  | case4 budget now frames d hd e hhalt =>
    cases attempt_eq_halted_iff.1 hhalt with
    | overdue | late =>
      simp only [Walk.nodes, Ending.unresolved, hleft hd, List.filterMap_nil, List.flatMap_nil,
        List.countP_nil, List.map_nil, List.sum_nil]
      omega
    | unreadable | broken => cases ha
  | case5 budget now frames d hd s hs w ih =>
    have hstep := attempt_eq_stepped_iff.1 hs
    -- The term that was due is evaluated, and the terms of the record it opens are new.
    have hdue := Due.countP_pending hp hd
    have hevaluated := he d now s (Due.isChargeable_of_next? hd) hstep
    have hmet : (s.node?.toList.flatMap Node.terms).countP p =
        (pendingTerms s.opened).countP p := by
      rw [hstep.terms_node]
    have hrest : (pendingTerms (s.opened ++ d.rest)).countP p +
        (w.nodes.flatMap Node.terms).countP p =
          (w.steps.map evaluated).sum + (w.ending.unresolved.map Prod.snd).countP p := ih ha
    have hopen : (pendingTerms (s.opened ++ d.rest)).countP p =
        (pendingTerms s.opened).countP p + (pendingTerms d.rest).countP p := by
      rw [pendingTerms, List.flatMap_append, List.countP_append]
      rfl
    rw [Walk.nodes_cons, List.flatMap_append, List.countP_append, List.map_cons, List.sum_cons,
      hdue, hevaluated, hmet]
    simp only
    omega

/-! ## The balance of a chain -/

/-- The balance of a walk from a root is that of the chain that it found: the terms of all records
come to those that were evaluated and those that are left. -/
theorem countP_terms_chain_walk {p : Term → Bool} (hp : ∀ t, p t = true → t.isChargeable = true)
    (evaluated : Step τ → Nat)
    (he : ∀ (d : Due) (now : τ) (s : Step τ), d.term.isChargeable = true →
      d.Steps z deadline now s → evaluated s = if p d.term then 1 else 0)
    {budget : Nat} {domain : Text} (records : List Text) {root : Record}
    (ha : (walk z deadline budget now [⟨domain, root.terms⟩]).ending.abort? = none) :
    ((walk z deadline budget now [⟨domain, root.terms⟩]).chain records root).terms.countP p =
      ((walk z deadline budget now [⟨domain, root.terms⟩]).steps.map evaluated).sum +
        ((walk z deadline budget now [⟨domain, root.terms⟩]).chain records
          root).unresolvedTerms.countP p := by
  have hroot : pendingTerms [⟨domain, root.terms⟩] = root.terms := by simp [pendingTerms]
  have hbalance := countP_pending_walk hp evaluated he ha
  rw [hroot] at hbalance
  rw [Chain.unresolvedTerms, Walk.chain, ← hbalance, Chain.terms, Walk.nodesFrom,
    List.flatMap_cons, List.countP_append]
  rfl

omit [Seconds τ] in
/-- The steps of a walk are as many as the lookups charged, but for the one of the term at which it
was halted. -/
theorem Walk.length_steps_eq (w : Walk τ) (records : List Text) (root : Record) :
    (w.steps.length : Int) =
      (w.chain records root).lookups - (w.chain records root).haltCharge := by
  have hhalt : w.ending.isHalt = (w.ending.isOverBudget || w.ending.isOutOfTime) := by
    cases w.ending <;> rfl
  simp only [chain, Chain.haltCharge, charged, hhalt]
  omega

omit [Seconds τ] in
/-- The steps of a walk at which a term was followed are as many as the domains met and the
loops. -/
theorem Walk.sum_followed_eq (w : Walk τ) :
    (w.steps.map fun s => s.node?.toList.length + s.cycle?.toList.length).sum =
      w.nodes.length + w.cycles.length := by
  obtain ⟨steps, ending⟩ := w
  induction steps with
  | nil => rfl
  | cons s steps ih =>
    have hnodes := nodes_cons s ⟨steps, ending⟩
    have hcycles := cycles_cons s ⟨steps, ending⟩
    simp only at ih hnodes hcycles ⊢
    rw [List.map_cons, List.sum_cons, ih, hnodes, hcycles, List.length_append, List.length_append]
    omega

/-- Terms are left unresolved if and only if the walk was halted. -/
theorem unresolved_walk_ne_nil_iff {budget : Nat} {frames : List Frame} :
    (walk z deadline budget now frames).ending.unresolved ≠ [] ↔
      (walk z deadline budget now frames).ending.isOverBudget = true ∨
        (walk z deadline budget now frames).ending.isOutOfTime = true := by
  have hcases := ending_walk_cases z deadline budget now frames
  generalize (walk z deadline budget now frames).ending = e at hcases ⊢
  rcases hcases with rfl | ⟨d, rfl⟩ | ⟨d, start, hh⟩
  · simp [Ending.unresolved, Ending.isOverBudget, Ending.isOutOfTime]
  · simp [Ending.unresolved, Ending.isOverBudget, Due.unresolved]
  · cases hh with
    | overdue | late => simp [Ending.unresolved, Ending.isOutOfTime, Due.unresolved]
    | unreadable | broken => simp [Ending.unresolved, Ending.isOverBudget, Ending.isOutOfTime]

/-- In every chain with a root, resolved or previewed, the terms of all records that were met are
accounted for. The chargeable ones come to the lookups charged, without the one of the term at which
the expansion was halted, and those left unresolved. The followable ones that were not left
unresolved come to the domains met beside the root, and the loops. The two causes of a halt exclude
each other, and terms are left if and only if there was one. -/
theorem terms_conserved (z : Zone τ) (l : Limits τ) (now : τ) (domain raw : Text) (c : Chain)
    (root : Record)
    (h : (Chain.resolve z l now domain).outcome = .ok c ∨
      (Chain.preview z l now domain raw).outcome = .ok c) (hroot : c.root = some root) :
    (c.terms.countP Term.isChargeable : Int) =
        c.lookups - c.haltCharge + c.unresolvedTerms.countP Term.isChargeable ∧
      (c.terms.countP Term.isFollowable : Int) - c.unresolvedTerms.countP Term.isFollowable =
        ((c.nodes.length : Int) - 1) + c.cycles.length ∧
      ¬ (c.limitExceeded = true ∧ c.timedOut = true) ∧
      (c.unresolved ≠ [] ↔ c.limitExceeded = true ∨ c.timedOut = true) := by
  obtain ⟨start, records, -, -, habort, rfl⟩ := Chain.exists_walk_of_root h hroot
  -- Every step charges one term; a step follows one if it meets a domain or leads back to one.
  have hcharged := countP_terms_chain_walk (p := Term.isChargeable) (fun t ht => ht) (fun _ => 1)
    (fun d now s ht _ => by rw [ht]; rfl) records habort
  have hfollowed := countP_terms_chain_walk (p := Term.isFollowable)
    (fun t => Term.isChargeable_of_isFollowable)
    (fun s => s.node?.toList.length + s.cycle?.toList.length)
    (fun d now s _ hs => hs.isFollowable) records habort
  have hleft := @unresolved_walk_ne_nil_iff τ _ z (now + l.seconds) start l.lookups.most.toNat
    [⟨normalizeDomain domain, root.terms⟩]
  generalize walk z (now + l.seconds) l.lookups.most.toNat start
    [⟨normalizeDomain domain, root.terms⟩] = w at hcharged hfollowed hleft ⊢
  have hsteps := w.length_steps_eq records root
  refine ⟨?_, ?_, ?_, hleft⟩
  · rw [List.map_const', List.sum_replicate_nat, Nat.mul_one] at hcharged
    omega
  · have hnodes : (w.chain records root).nodes.length = w.nodes.length + 1 := rfl
    rw [w.sum_followed_eq] at hfollowed
    simp only [Walk.chain] at hfollowed hnodes ⊢
    omega
  · simp only [Walk.chain]
    cases w.ending <;> simp [Ending.isOverBudget, Ending.isOutOfTime]

end Timing

/-- A zone in which two records refer to each other and to domains that no walk of four lookups
comes to. -/
def crossedZone : Zone Rat where
  answer domain :=
    if domain = ("a" : Text) then .texts ["v=spf1 include:b mx include:c -all"]
    else .texts ["v=spf1 include:a include:%{d} ptr include:d"]
  delay _ := 0

/-- Under a limit of four lookups the walk is halted inside the second record. Of the seven terms
that are chargeable three are left, so the five lookups charged are those of four terms and the one
of the halt. -/
theorem crossedZone_conserved :
    ∃ c, (Chain.resolve crossedZone ⟨(4 : Int), 5⟩ 0 ("a" : Text)).outcome = .ok c ∧
      c.lookups = 5 ∧ c.haltCharge = 1 ∧ c.unresolvedTerms.countP Term.isChargeable = 3 ∧
      c.terms.countP Term.isChargeable = 7 := by
  obtain ⟨c, hc, hfound⟩ : ∃ c,
      (Chain.resolve crossedZone ⟨(4 : Int), 5⟩ 0 ("a" : Text)).outcome = .ok c ∧
        (c.root.isSome, c.lookups, c.haltCharge, c.unresolvedTerms.countP Term.isChargeable) =
          (true, 5, 1, 3) :=
    exists_ok_of_map_toOption (fun c : Chain => (c.root.isSome, c.lookups, c.haltCharge,
      c.unresolvedTerms.countP Term.isChargeable)) (by decide +kernel)
  simp only [Prod.mk.injEq] at hfound
  obtain ⟨hsome, hlookups, hhalt, hleft⟩ := hfound
  obtain ⟨root, hroot⟩ := Option.isSome_iff_exists.1 hsome
  have hbalance := (terms_conserved crossedZone ⟨(4 : Int), 5⟩ 0 "a" [] c root (.inl hc) hroot).1
  exact ⟨c, hc, hlookups, hhalt, hleft, by omega⟩

end SenderPolicy
