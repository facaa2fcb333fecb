import SenderPolicy.Proofs.Chain.Budget
import SenderPolicy.Zone.Table

/-!
# The cost of a record

What a record costs can be counted without a limit: one lookup for every term that is charged, and
for a term that opens a record the cost of that record on top, with its domain on the path.
`FiniteZone.cost` is this count. It comes to an end because the path grows at every record that is
opened and the zone holds only so many.

The walk counts otherwise: one term after the other, over a stack of open records, up to a limit.
`FiniteZone.openCost` is what a stack has still to cost. `Due.Steps.openCost` shows that a step
takes one lookup off it, and `charged_walk_eq_min` that a walk is charged all of it or one lookup
more than allowed, whichever is less.
-/

namespace SenderPolicy

/-! ## Counting without a limit -/

section Opened

variable {τ : Type}

/-- The record that a term opens, with the domains of the open records on the path. The first record
that its domain publishes is opened, unless the domain is on the path or the record cannot be
read. -/
def Zone.opened? (z : Zone τ) (path : List Text) (t : Term) : Option Frame :=
  match t.target? with
  | none => none
  | some (_, target) =>
    if target ∈ path then none
    else (z.published? target).bind fun raw =>
      (Record.read raw target).toOption.map fun r => ⟨target, r.terms⟩

variable {z : Zone τ} {path : List Text} {t : Term} {f : Frame}

/-- A term that opens a record refers to its domain. -/
theorem Zone.exists_target_of_opened? (h : z.opened? path t = some f) :
    (∃ link, t.target? = some (link, f.domain)) ∧ f.domain ∉ path ∧
      (z.published? f.domain).isSome = true := by
  unfold opened? at h
  split at h
  · cases h
  · rename_i link target ht
    split at h
    · cases h
    · rename_i hp
      obtain ⟨raw, hraw, hread⟩ := Option.bind_eq_some_iff.1 h
      obtain ⟨r, -, rfl⟩ := Option.map_eq_some_iff.1 hread
      exact ⟨⟨link, ht⟩, hp, by simp [hraw]⟩

end Opened

/-- A zone in which only the domains of a list publish records. -/
structure FiniteZone (τ : Type) extends Zone τ where
  /-- The domains that may publish records. -/
  names : List Text
  /-- No other domain publishes one. -/
  mem_names : ∀ domain, (toZone.published? domain).isSome = true → domain ∈ names

/-- The zone of a table is finite. -/
def ZoneTable.finiteZone (t : ZoneTable) : FiniteZone Binary64 where
  toZone := t.zone
  names := t.answers.map Prod.fst
  mem_names domain h := by
    unfold Zone.published? zone at h
    cases hl : t.answers.lookup domain with
    | none => simp [hl] at h
    | some a =>
      obtain ⟨p, hp, hdomain⟩ := List.lookup_isSome_iff.1 (by rw [hl]; rfl)
      exact List.mem_map.2 ⟨p, hp, (eq_of_beq hdomain).symm⟩

namespace FiniteZone

variable {τ : Type} (z : FiniteZone τ)

/-- The domains that are not on a path. -/
def unvisited (path : List Text) : List Text := z.names.filter (· ∉ path)

/-- A record that is opened leaves fewer domains off the path. -/
theorem length_unvisited_lt {z : FiniteZone τ} {path : List Text} {t : Term} {f : Frame}
    (h : z.opened? path t = some f) :
    (z.unvisited (f.domain :: path)).length < (z.unvisited path).length := by
  obtain ⟨-, hp, hpub⟩ := Zone.exists_target_of_opened? h
  -- The domain that is opened is taken off what was unvisited, and was among it.
  have hsplit : z.unvisited (f.domain :: path) =
      (z.unvisited path).filter (· ≠ f.domain) := by
    simp only [unvisited, List.filter_filter, List.mem_cons]
    congr 1
    funext x
    simp
  rw [hsplit, List.length_filter_lt_length_iff_exists]
  exact ⟨f.domain, List.mem_filter.2 ⟨z.mem_names _ hpub, by simpa using hp⟩, by simp⟩

/-- The lookups that terms cost in a record with the given path, its own domain included. -/
def cost (path : List Text) : List Term → Nat
  | [] => 0
  | t :: terms =>
    (t.charge + match _h : z.opened? path t with
      | some f => cost (f.domain :: path) f.pending
      | none => 0) + cost path terms
termination_by terms => ((z.unvisited path).length, terms.length)
decreasing_by
  · exact Prod.Lex.left _ _ (length_unvisited_lt _h)
  · exact Prod.Lex.right _ (Nat.lt_succ_self _)

variable {z : FiniteZone τ} {path : List Text} {t : Term} {terms : List Term}

/-- No terms cost nothing. -/
@[simp]
theorem cost_nil : z.cost path [] = 0 := by rw [cost]

/-- A term that opens a record costs its own charge and what the record costs. -/
theorem cost_cons_of_opened {f : Frame} (h : z.opened? path t = some f) :
    z.cost path (t :: terms) =
      t.charge + z.cost (f.domain :: path) f.pending + z.cost path terms := by
  rw [cost]
  split <;> simp_all

/-- A term that opens no record costs its own charge. -/
theorem cost_cons_of_not_opened (h : z.opened? path t = none) :
    z.cost path (t :: terms) = t.charge + z.cost path terms := by
  rw [cost]
  split <;> simp_all

/-- A term costs at least its own charge. -/
theorem charge_le_cost : t.charge ≤ z.cost path (t :: terms) := by
  cases h : z.opened? path t with
  | none =>
    rw [cost_cons_of_not_opened h]
    exact Nat.le_add_right _ _
  | some f =>
    rw [cost_cons_of_opened h, Nat.add_assoc]
    exact Nat.le_add_right _ _

/-- Terms that are not charged cost nothing. -/
theorem cost_dropWhile : z.cost path (terms.dropWhile (·.charge = 0)) = z.cost path terms := by
  induction terms with
  | nil => rfl
  | cons t terms ih =>
    by_cases hc : t.charge = 0
    · -- A term that opens a record is charged for it.
      have hnone : z.opened? path t = none := by
        cases hf : z.opened? path t with
        | none => rfl
        | some f =>
          obtain ⟨⟨link, ht⟩, -, -⟩ := Zone.exists_target_of_opened? hf
          exact absurd (hc.symm.trans (Term.charge_of_target? ht)) (by decide)
      rw [cost_cons_of_not_opened hnone, hc, Nat.zero_add, List.dropWhile_cons_of_pos (by simpa),
        ih]
    · rw [List.dropWhile_cons_of_neg (by simpa)]

/-! ## What open records have still to cost -/

/-- The lookups that the pending terms of open records cost, the innermost record first. -/
def openCost (z : FiniteZone τ) : List Frame → Nat
  | [] => 0
  | f :: outer => z.cost (f.domain :: outer.map (·.domain)) f.pending + z.openCost outer

/-- Records without a term that is due cost nothing any more. -/
theorem openCost_of_next?_eq_none {frames : List Frame} (hd : Due.next? frames = none) :
    z.openCost frames = 0 := by
  induction frames with
  | nil => rfl
  | cons f outer ih =>
    unfold Due.next? at hd
    split at hd
    · rename_i hnil
      rw [openCost, ← cost_dropWhile, hnil, cost_nil, ih hd]
    · cases hd

/-- Nothing before the term that is due costs anything. -/
theorem openCost_of_next? {frames : List Frame} {d : Due} (hd : Due.next? frames = some d) :
    z.openCost frames = z.cost d.path (d.term :: d.later) + z.openCost d.outer := by
  induction frames with
  | nil => cases hd
  | cons f outer ih =>
    unfold Due.next? at hd
    split at hd
    · rename_i hnil
      rw [openCost, ← cost_dropWhile, hnil, cost_nil, Nat.zero_add, ih hd]
    · rename_i t later ht
      cases hd
      rw [openCost, ← cost_dropWhile, ht]
      rfl

end FiniteZone

section Timing

variable {τ : Type} [Seconds τ] {z : FiniteZone τ} {deadline now : τ}

/-- A step opens the record that its term opens. -/
theorem Due.Steps.opened? {z : Zone τ} {d : Due} {s : Step τ} (h : d.Steps z deadline now s) :
    z.opened? d.path d.term = s.opened.head? := by
  unfold Zone.opened?
  cases h with
  | charged ht => rw [ht]; rfl
  | loop ht hp => rw [ht]; simp [hp, Step.opened]
  | unusable ht hp hr hz hl =>
    rw [ht]
    simp [hp, Zone.published?_of_refusal? hz, Step.opened]
  | entered ht hp hr hz hread => rw [ht]; simp [hp, hz, hread, Step.opened, Except.toOption]

/-- A step takes one lookup off what the open records have still to cost. -/
theorem Due.Steps.openCost {frames : List Frame} {d : Due} {s : Step τ}
    (hd : Due.next? frames = some d) (h : d.Steps z.toZone deadline now s) :
    z.openCost frames = z.openCost (s.opened ++ d.rest) + 1 := by
  have hopened := h.opened?
  have hcharge := Due.charge_of_next? hd
  have hfirst : z.openCost frames = z.cost d.path (d.term :: d.later) + z.openCost d.outer :=
    FiniteZone.openCost_of_next? hd
  cases hs : s.opened with
  | nil =>
    rw [hs] at hopened
    calc z.openCost frames = 1 + z.cost d.path d.later + z.openCost d.outer := by
          rw [hfirst, FiniteZone.cost_cons_of_not_opened hopened, hcharge]
      _ = z.openCost d.rest + 1 := by
          simp only [Due.rest, FiniteZone.openCost, Due.path]
          omega
  | cons f more =>
    have hone := s.length_opened_le
    rw [hs, List.length_cons] at hone
    obtain rfl : more = [] := List.length_eq_zero_iff.1 (by omega)
    rw [hs] at hopened
    -- The record that is opened goes on top of the stack, with the path that it was opened on.
    calc z.openCost frames = 1 + z.cost (f.domain :: d.path) f.pending + z.cost d.path d.later +
          z.openCost d.outer := by
          rw [hfirst, FiniteZone.cost_cons_of_opened hopened, hcharge]
      _ = z.openCost (f :: d.rest) + 1 := by
          simp only [Due.rest, FiniteZone.openCost, Due.path, List.map_cons]
          omega

/-- A walk that is neither aborted nor out of time is charged what the open records cost, or one
lookup more than allowed if they cost more. -/
theorem charged_walk_eq_min {budget : Nat} {frames : List Frame}
    (ha : (walk z.toZone deadline budget now frames).ending.abort? = none)
    (ht : (walk z.toZone deadline budget now frames).ending.isOutOfTime = false) :
    (walk z.toZone deadline budget now frames).charged =
      min (z.openCost frames) (budget + 1) := by
  fun_induction walk z.toZone deadline budget now frames with
  | case1 now frames hd | case3 budget now frames hd =>
    rw [FiniteZone.openCost_of_next?_eq_none hd, Nat.zero_min]
    rfl
  | case2 now frames d hd =>
    -- The term that is over the budget is charged, so at least one lookup is still to come.
    have hpos : 1 ≤ z.openCost frames := by
      rw [FiniteZone.openCost_of_next? hd, ← Due.charge_of_next? hd]
      exact Nat.le_add_right_of_le FiniteZone.charge_le_cost
    exact (Nat.min_eq_right hpos).symm
  | case4 budget now frames d hd e he =>
    cases attempt_eq_halted_iff.1 he with
    | overdue | late => cases ht
    | unreadable | broken => cases ha
  | case5 budget now frames d hd s hs w ih =>
    rw [Due.Steps.openCost hd (attempt_eq_stepped_iff.1 hs), Walk.charged_cons, ih ha ht]
    omega

/-! ## Without time passing -/

/-- On the clock of an evaluation no time elapses: answers take none, and there is some left. -/
structure Zone.Timeless (z : Zone τ) (deadline now : τ) : Prop where
  /-- Answers take no time. -/
  add_delay : ∀ domain, now + z.delay domain = now
  /-- There is time left. -/
  remaining : ¬ remaining deadline now ≤ 0

/-- On an exact clock no time elapses if the delays are zero and the time allowed is not. -/
theorem Zone.timeless_of_delay_eq_zero {z : Zone Rat} {seconds now : Rat}
    (hz : ∀ domain, z.delay domain = 0) (hs : 0 < seconds) : z.Timeless (now + seconds) now where
  add_delay domain := by rw [hz, Rat.add_zero]
  remaining := by
    have hlt : now < now + seconds := by
      have := Rat.add_lt_add_left (c := now) |>.2 hs
      rwa [Rat.add_zero] at this
    exact Rat.not_le.2 (remaining_pos_iff.2 hlt)

/-- If no time elapses, a step leaves the clock where it was. -/
theorem Zone.Timeless.doneAt_eq {z : Zone τ} (h : z.Timeless deadline now) (s : Step τ) :
    s.doneAt z now = now := by
  unfold Step.doneAt
  cases s.query? with
  | none => rfl
  | some q => exact h.add_delay q.domain

/-- If no time elapses, the time does not run out. -/
theorem Zone.Timeless.isOutOfTime_walk {z : Zone τ} (h : z.Timeless deadline now) (budget : Nat)
    (frames : List Frame) : (walk z deadline budget now frames).ending.isOutOfTime = false := by
  fun_induction walk z deadline budget now frames with
  | case1 | case2 | case3 => rfl
  | case4 budget now frames d hd e he =>
    cases attempt_eq_halted_iff.1 he with
    | overdue _ _ hr => exact absurd hr h.remaining
    | late _ _ _ _ hl => exact absurd (by rwa [h.add_delay] at hl) h.remaining
    | unreadable | broken => rfl
  | case5 budget now frames d hd s hs w ih =>
    -- The clock is where it was, so the hypothesis carries over to the rest of the walk.
    exact ih (by rwa [h.doneAt_eq])

end Timing

end SenderPolicy
