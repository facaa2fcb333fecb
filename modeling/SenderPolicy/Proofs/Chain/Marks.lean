import SenderPolicy.Proofs.Chain.Description

/-!
# Lookups and their marks

What an expansion does shows in three places: the lookups that are made, the domains that are met
and the failures. `lookups_leave_marks` says how they correspond. Every lookup has its mark among
the domains, in the same place; only the lookup at which an expansion runs out of time leaves none.
The failures are read off the domains one by one.

That a lookup is without a mark can be told from the clock: it is the last one, it was not answered
in time, and no time was left by then (`isSome_query?_ending_walk_iff`). For a lookup that has a
mark and was not answered in time, there was time left (`Due.Steps.in_time`).
-/

namespace SenderPolicy

/-- Whether the lookup of a domain finds no SPF record: it has no TXT records, or none of them is an
SPF record. -/
def Zone.lacksRecord {τ : Type} (z : Zone τ) (domain : Text) : Bool :=
  match z.answer domain with
  | .texts texts => !texts.any isSpfRecord
  | .notFound _ => true
  | _ => false

/-- The failure that a node tells of: that its domain has no record, for lack of one or for another
reason, or that its record is not well formed. -/
def Node.failure? (n : Node) (lacksRecord : Bool) : Option Failure :=
  match n.record with
  | none => n.error.map fun m => ⟨n.domain, if lacksRecord then .missing else .lookupFailed, m⟩
  | some r => r.diagnostic.map fun d => ⟨n.domain, .invalid, d.message⟩

section Zone

variable {τ : Type} {z : Zone τ} {domain : Text}

/-- A domain that is refused is said to have no SPF record if the lookup found none. -/
theorem Zone.kind_of_refusal? {kind : FailureKind} {m : Text}
    (h : z.refusal? domain = some (kind, m)) :
    kind = if z.lacksRecord domain then .missing else .lookupFailed := by
  unfold refusal? at h
  unfold lacksRecord
  cases ha : z.answer domain with
  | texts texts =>
    simp only [ha] at h
    split at h
    · rename_i hnone
      have hany : texts.any isSpfRecord = false := by
        simpa [selectSpfRecords, List.filter_eq_nil_iff] using hnone
      obtain ⟨rfl, -⟩ := Prod.mk.inj (Option.some.inj h)
      simp only [hany, Bool.not_false, if_true]
    · cases h
  | notFound | timedOut | failed =>
    rw [ha] at h
    obtain ⟨rfl, -⟩ := Prod.mk.inj (Option.some.inj h)
    rfl
  | broken =>
    rw [ha] at h
    cases h

/-- A domain that publishes a record does not lack it. -/
theorem Zone.lacksRecord_of_published? {raw : Text} (h : z.published? domain = some raw) :
    z.lacksRecord domain = false := by
  unfold published? at h
  unfold lacksRecord
  cases ha : z.answer domain with
  | texts texts =>
    rw [ha] at h
    obtain ⟨hmem, hspf⟩ := List.mem_filter.1 (List.mem_of_head? h)
    have hany : texts.any isSpfRecord = true := List.any_eq_true.2 ⟨raw, hmem, hspf⟩
    simp only [hany, Bool.not_true]
  | notFound =>
    rw [ha] at h
    cases h
  | timedOut | failed | broken => rfl

end Zone

section Timing

variable {τ : Type} [Seconds τ] {z : Zone τ} {deadline now : τ}

/-! ## Failures -/

section Walk

variable {budget : Nat} {frames : List Frame}

/-- The failures of a walk are those that the domains tell of which it meets, in their order. -/
theorem failures_walk_eq : (walk z deadline budget now frames).failures =
    (walk z deadline budget now frames).nodes.filterMap fun n =>
      n.failure? (z.lacksRecord n.domain) := by
  rw [failures_walk]
  refine List.filterMap_congr fun n hn => ?_
  cases hr : n.record with
  | some r => simp only [Zone.failure?, Node.failure?, hr]
  | none =>
    obtain ⟨kind, m, hz, herror⟩ := refusal?_of_mem_nodes_walk hn hr
    have hkind := Zone.kind_of_refusal? hz
    simp only [Zone.failure?, Node.failure?, hr, hz, herror, ← hkind, Option.map_some]

/-- A failure of a walk is for lack of a record if the lookup of its domain found none. -/
theorem kind_of_mem_failures_walk {f : Failure}
    (hf : f ∈ (walk z deadline budget now frames).failures) :
    f.kind = .missing ↔ z.lacksRecord f.domain = true := by
  rw [failures_walk] at hf
  obtain ⟨n, hn, hfail⟩ := List.mem_filterMap.1 hf
  unfold Zone.failure? at hfail
  cases hr : n.record with
  | some r =>
    rw [hr] at hfail
    obtain ⟨d, -, rfl⟩ := Option.map_eq_some_iff.1 hfail
    -- A record that is not well formed is a record all the same.
    obtain ⟨-, raw, hpublished, -⟩ := (describes_of_mem_nodes_walk hn).record r hr
    have hlacks := Zone.lacksRecord_of_published? hpublished
    simp [hlacks]
  | none =>
    rw [hr] at hfail
    obtain ⟨⟨kind, m⟩, hz, rfl⟩ := Option.map_eq_some_iff.1 hfail
    have hkind : kind = if z.lacksRecord n.domain then .missing else .lookupFailed :=
      Zone.kind_of_refusal? hz
    show kind = .missing ↔ z.lacksRecord n.domain = true
    rw [hkind]
    cases z.lacksRecord n.domain <;> simp

end Walk

/-! ## The lookup without a mark -/

/-- The last of the lookups, of which the first was made at the time `now`, was not answered in
time, and no time was left by then. -/
def Zone.EndsLate (z : Zone τ) (deadline now : τ) (lookups : List (Query τ)) : Prop :=
  ∃ q m, lookups.getLast? = some q ∧ z.answer q.domain = .timedOut m ∧
    remaining deadline (z.after now lookups) ≤ 0

/-- Without lookups none was late. -/
theorem Zone.not_endsLate_nil : ¬ z.EndsLate deadline now [] := by
  rintro ⟨q, m, hlast, -⟩
  cases hlast

/-- Whether the last lookup was late does not depend on those before it, but for the time that they
took. -/
theorem Zone.endsLate_append {qs rs : List (Query τ)} (hrs : rs ≠ []) :
    z.EndsLate deadline now (qs ++ rs) ↔ z.EndsLate deadline (z.after now qs) rs := by
  unfold EndsLate
  rw [List.getLast?_append_of_ne_nil qs hrs, after_append]

/-- A single lookup is late if it was not answered in time and no time was left by then. -/
theorem Zone.endsLate_singleton {q : Query τ} : z.EndsLate deadline now [q] ↔
    ∃ m, z.answer q.domain = .timedOut m ∧ remaining deadline (now + z.delay q.domain) ≤ 0 := by
  constructor
  · rintro ⟨q', m, hlast, hz, hlate⟩
    obtain rfl : q = q' := Option.some.inj hlast
    exact ⟨m, hz, hlate⟩
  · rintro ⟨m, hz, hlate⟩
    exact ⟨q, m, rfl, hz, hlate⟩

/-- The walk goes on after a lookup that was not answered in time only if there is time left. -/
theorem Due.Steps.in_time {d : Due} {s : Step τ} (h : d.Steps z deadline now s) :
    ¬ z.EndsLate deadline now s.query?.toList := by
  cases h with
  | charged | loop => exact Zone.not_endsLate_nil
  | @unusable link target kind message ht hp hr hrefusal hl =>
    intro hends
    obtain ⟨m, hz, hlate⟩ := Zone.endsLate_singleton.1 hends
    -- What is said of the domain is that its answer was late.
    have hmessage : z.refusal? target = some (.lookupFailed, m) := by
      simp only [Zone.refusal?, hz]
    obtain ⟨-, rfl⟩ := Prod.mk.inj (Option.some.inj (hmessage.symm.trans hrefusal))
    exact hl hz hlate
  | @entered link target raw r ht hp hr hpublished hread =>
    intro hends
    obtain ⟨m, hz, -⟩ := Zone.endsLate_singleton.1 hends
    have hnone : z.published? target = none := by simp only [Zone.published?, hz]
    cases hnone.symm.trans hpublished

/-- A walk that was not aborted ends with a lookup that leaves no mark if and only if its last
lookup was late. -/
theorem isSome_query?_ending_walk_iff {budget : Nat} {frames : List Frame}
    (ha : (walk z deadline budget now frames).ending.abort? = none) :
    (walk z deadline budget now frames).ending.query?.isSome = true ↔
      z.EndsLate deadline now (walk z deadline budget now frames).queries := by
  fun_induction walk z deadline budget now frames with
  | case1 | case2 | case3 => exact iff_of_false Bool.false_ne_true Zone.not_endsLate_nil
  | case4 budget now frames d hd e he =>
    cases attempt_eq_halted_iff.1 he with
    | overdue => exact iff_of_false Bool.false_ne_true Zone.not_endsLate_nil
    | late ht hp hr hz hl => exact iff_of_true rfl ⟨_, _, rfl, hz, hl⟩
    | unreadable | broken => cases ha
  | case5 budget now frames d hd s hs w ih =>
    have hstep := attempt_eq_stepped_iff.1 hs
    rw [Walk.queries_cons]
    by_cases hw : w.queries = []
    · -- The lookup of the step, if it made one, was the last.
      have hnone : w.ending.query? = none := by
        obtain ⟨-, hlast⟩ := List.append_eq_nil_iff.1 hw
        exact Option.toList_eq_nil_iff.1 hlast
      rw [hw, List.append_nil]
      exact iff_of_false (by rw [hnone]; exact Bool.false_ne_true) hstep.in_time
    · rw [Zone.endsLate_append hw]
      exact ih ha

omit [Seconds τ] in
/-- A walk that was not aborted makes a lookup with which it ends only when it runs out of time. -/
theorem Ending.isOutOfTime_of_query? {e : Ending τ} (ha : e.abort? = none)
    (hq : e.query?.isSome = true) : e.isOutOfTime = true := by
  cases e with
  | outOfTime => rfl
  | completed | overBudget => cases hq
  | aborted => cases ha

/-! ## The marks of a chain -/

/-- The lookups `lookups`, of which the first was made at the time `now`, have their marks in a
chain. The lookups of `own` names come before those of the walk. -/
structure Chain.Marks (c : Chain) (z : Zone τ) (deadline now : τ) (own : List Text)
    (lookups : List (Query τ)) : Prop where
  /-- After the first names, those of the domains below the root are looked up, and at most one
  more: that of a domain that did not answer in time, when the time ran out with it. -/
  names : ∃ last : Option Text,
    lookups.map Query.domain = own ++ c.nodes.tail.map Node.domain ++ last.toList ∧
      (last.isSome = true ↔ c.timedOut = true ∧ z.EndsLate deadline now lookups)
  /-- It is said of every node without a record why it has none. -/
  error : ∀ n ∈ c.nodes.tail, n.record = none → ∃ m, n.error = some m
  /-- The failures are those that the nodes below the root tell of, in their order. -/
  failures : c.failures = c.nodes.tail.filterMap fun n => n.failure? (z.lacksRecord n.domain)
  /-- A failure is for lack of a record if and only if the lookup found none. -/
  missing_iff : ∀ f ∈ c.failures, f.kind = .missing ↔ z.lacksRecord f.domain = true

/-- The lookups of a walk that was not aborted have their marks in what it found, and so they have
with other lookups before them that were answered. -/
theorem marks_chain_walk {budget : Nat} {frames : List Frame} (records : List Text) (root : Record)
    {start : τ} (first : List (Query τ))
    (hfirst : ¬ z.EndsLate deadline start first) (hnow : now = z.after start first)
    (ha : (walk z deadline budget now frames).ending.abort? = none) :
    ((walk z deadline budget now frames).chain records root).Marks z deadline start
      (first.map Query.domain) (first ++ (walk z deadline budget now frames).queries) := by
  have hlate := isSome_query?_ending_walk_iff ha
  have hwhole : z.EndsLate deadline start (first ++ (walk z deadline budget now frames).queries) ↔
      z.EndsLate deadline now (walk z deadline budget now frames).queries := by
    by_cases hw : (walk z deadline budget now frames).queries = []
    · rw [hw, List.append_nil]
      exact iff_of_false hfirst Zone.not_endsLate_nil
    · rw [Zone.endsLate_append hw, ← hnow]
  constructor
  · refine ⟨(walk z deadline budget now frames).ending.query?.map Query.domain, ?_, ?_⟩
    · rw [List.map_append, Walk.map_domain_queries, ← List.append_assoc]
      rfl
    · rw [Option.isSome_map, hwhole, ← hlate]
      exact ⟨fun hq => ⟨Ending.isOutOfTime_of_query? ha hq, hq⟩, And.right⟩
  · intro n hn hr
    obtain ⟨kind, m, -, herror⟩ := refusal?_of_mem_nodes_walk hn hr
    exact ⟨m, herror⟩
  · exact failures_walk_eq
  · exact fun f hf => kind_of_mem_failures_walk hf

/-- A domain that has a root record in the chain that is returned for it answered in time. -/
theorem Chain.not_endsLate_of_root {l : Limits τ} {domain : Text} {c : Chain} {root : Record}
    {q : Query τ} (hq : q.domain = normalizeDomain domain)
    (h : (resolve z l now domain).outcome = .ok c) (hroot : c.root = some root) :
    ¬ z.EndsLate deadline now [q] := by
  intro hends
  obtain ⟨m, hz, -⟩ := Zone.endsLate_singleton.1 hends
  rcases resolve_outcome_cases h with ⟨-, hc⟩ | ⟨texts, raw, others, htexts, -⟩
  · rw [hc] at hroot
    cases hroot
  · rw [← hq, hz] at htexts
    cases htexts

/-- Every lookup leaves its mark in a chain with a root, and nothing is looked up again without one.
When a domain is resolved, its own name is the first that is looked up. -/
theorem lookups_leave_marks (z : Zone τ) (l : Limits τ) (now : τ) (domain raw : Text) (c : Chain)
    (root : Record) (hroot : c.root = some root) :
    ((Chain.resolve z l now domain).outcome = .ok c →
      c.Marks z (now + l.seconds) now [normalizeDomain domain]
        (Chain.resolve z l now domain).queries) ∧
    ((Chain.preview z l now domain raw).outcome = .ok c →
      c.Marks z (now + l.seconds) now [] (Chain.preview z l now domain raw).queries) := by
  constructor
  · intro h
    obtain ⟨records, text, w, rfl, -, habort, rfl, hqueries⟩ := Chain.resolve_of_root h hroot
    rw [hqueries]
    exact marks_chain_walk records root [⟨normalizeDomain domain, remaining (now + l.seconds) now⟩]
      (Chain.not_endsLate_of_root rfl h hroot) rfl habort
  · intro h
    obtain ⟨w, rfl, -, habort, rfl, hqueries⟩ := Chain.preview_of_root h hroot
    rw [hqueries]
    exact marks_chain_walk [raw] root [] Zone.not_endsLate_nil rfl habort

end Timing

/-- A zone in which a lookup fails in every way. The record that is malformed refers to a domain
below it. -/
def failingZone : Zone Rat where
  answer domain :=
    if domain = ("a" : Text) then .texts ["v=spf1 include:b include:c include:d include:e -all"]
    else if domain = ("b" : Text) then .notFound "no such domain"
    else if domain = ("c" : Text) then .texts ["v=spf1 include:f oops"]
    else if domain = ("f" : Text) then .texts ["no policy"]
    else .timedOut "no answer"
  delay _ := 1

/-- With six seconds allowed, the lookup that is not answered at the time 5 is a failure of its
domain, and the one that is not answered at the time 6 leaves no mark. -/
theorem failingZone_marks :
    ∃ c, (Chain.resolve failingZone ⟨(10 : Int), 6⟩ 0 ("a" : Text)).outcome = .ok c ∧
      c.failures.map (fun f => (f.domain, f.kind)) =
        [(("b" : Text), .missing), ("c", .invalid), ("f", .missing), ("d", .lookupFailed)] ∧
      ∃ last : Option Text, last.isSome = true ∧
        (Chain.resolve failingZone ⟨(10 : Int), 6⟩ 0 ("a" : Text)).queries.map Query.domain =
          [("a" : Text)] ++ c.nodes.tail.map Node.domain ++ last.toList := by
  obtain ⟨c, hc, hfound⟩ : ∃ c,
      (Chain.resolve failingZone ⟨(10 : Int), 6⟩ 0 ("a" : Text)).outcome = .ok c ∧
        (c.root.isSome, c.timedOut, c.failures.map fun f => (f.domain, f.kind)) = (true, true,
          [(("b" : Text), .missing), ("c", .invalid), ("f", .missing), ("d", .lookupFailed)]) :=
    exists_ok_of_map_toOption
      (fun c : Chain => (c.root.isSome, c.timedOut, c.failures.map fun f => (f.domain, f.kind)))
      (by decide +kernel)
  simp only [Prod.mk.injEq] at hfound
  obtain ⟨hsome, htimedOut, hfailures⟩ := hfound
  obtain ⟨root, hroot⟩ := Option.isSome_iff_exists.1 hsome
  have hmarks :=
    (lookups_leave_marks failingZone ⟨(10 : Int), 6⟩ 0 "a" [] c root hroot).1 hc
  obtain ⟨last, hnames, hlast⟩ := hmarks.names
  have hlate : failingZone.EndsLate (0 + 6) 0
      (Chain.resolve failingZone ⟨(10 : Int), 6⟩ 0 ("a" : Text)).queries := by
    refine ⟨⟨"e", 1⟩, "no answer", ?_, ?_, ?_⟩ <;> decide +kernel
  exact ⟨c, hc, hfailures, last, hlast.2 ⟨htimedOut, hlate⟩, hnames⟩

end SenderPolicy
