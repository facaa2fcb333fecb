import SenderPolicy.Proofs.Chain.Expansion

/-!
# The budget of a walk

The number of lookups that a walk is allowed bounds all that it does, on every zone: the lookups
that it is charged (`charged_walk_le`), those that it makes (`length_queries_walk_le`), the domains
that it meets (`length_nodes_walk_le`) and their depth (`depth_lt_of_mem_nodes_walk`). Loops need no
mention, for a zone may lead from domain to domain without ever coming back.
-/

namespace SenderPolicy

section Timing

variable {τ : Type} [Seconds τ]

/-! ## Lookups charged and made -/

section Walk

variable {z : Zone τ} {deadline now : τ} {budget : Nat} {frames : List Frame}

/-- A walk that goes over its budget has used all of it. -/
theorem length_steps_of_isOverBudget
    (h : (walk z deadline budget now frames).ending.isOverBudget = true) :
    (walk z deadline budget now frames).steps.length = budget := by
  fun_induction walk z deadline budget now frames with
  | case1 | case3 => cases h
  | case2 => rfl
  | case4 budget now frames d hd e he =>
    -- No evaluation of a term ends a walk over its budget.
    rw [attempt_eq_halted_iff] at he
    cases he <;> cases h
  | case5 budget now frames d hd s hs w ih => rw [List.length_cons, ih h]

/-- A walk that ends within its budget at some term has not used all of it. -/
theorem length_steps_lt (ho : (walk z deadline budget now frames).ending.isOverBudget = false)
    (hc : (walk z deadline budget now frames).ending ≠ .completed) :
    (walk z deadline budget now frames).steps.length < budget := by
  fun_induction walk z deadline budget now frames with
  | case1 | case3 => exact absurd rfl hc
  | case2 => cases ho
  | case4 => exact Nat.succ_pos _
  | case5 budget now frames d hd s hs w ih => exact Nat.succ_lt_succ (ih ho hc)

/-- A walk that goes over its budget is charged one lookup more than allowed. -/
theorem charged_of_isOverBudget
    (h : (walk z deadline budget now frames).ending.isOverBudget = true) :
    (walk z deadline budget now frames).charged = budget + 1 := by
  have hl := length_steps_of_isOverBudget h
  unfold Walk.charged
  cases he : (walk z deadline budget now frames).ending with
  | overBudget u => rw [hl]; rfl
  | _ => rw [he] at h; cases h

/-- A walk that does not go over its budget is charged no more lookups than allowed. -/
theorem charged_le_of_not_isOverBudget
    (h : (walk z deadline budget now frames).ending.isOverBudget = false) :
    (walk z deadline budget now frames).charged ≤ budget := by
  have hle := length_steps_walk_le z deadline budget now frames
  have hlt := length_steps_lt h
  unfold Walk.charged
  cases he : (walk z deadline budget now frames).ending with
  | completed => simpa [Ending.isHalt] using hle
  | overBudget u => rw [he] at h; cases h
  | outOfTime q u => simpa [Ending.isHalt] using Nat.succ_le_of_lt (hlt (by simp [he]))
  | aborted q a => simpa [Ending.isHalt] using hle

/-- A walk goes over its budget if and only if it is charged more lookups than allowed. -/
theorem isOverBudget_iff_lt_charged :
    (walk z deadline budget now frames).ending.isOverBudget = true ↔
      budget < (walk z deadline budget now frames).charged := by
  cases h : (walk z deadline budget now frames).ending.isOverBudget with
  | false => simpa using charged_le_of_not_isOverBudget h
  | true => simp [charged_of_isOverBudget h]

/-- No walk is charged more than one lookup more than allowed. -/
theorem charged_walk_le : (walk z deadline budget now frames).charged ≤ budget + 1 := by
  cases h : (walk z deadline budget now frames).ending.isOverBudget with
  | false => exact Nat.le_succ_of_le (charged_le_of_not_isOverBudget h)
  | true => exact Nat.le_of_eq (charged_of_isOverBudget h)

/-- A walk makes no more lookups than it is allowed. -/
theorem length_queries_walk_le : (walk z deadline budget now frames).queries.length ≤ budget := by
  have hsteps : ((walk z deadline budget now frames).steps.filterMap Step.query?).length ≤
      (walk z deadline budget now frames).steps.length := List.length_filterMap_le _ _
  have hle := length_steps_walk_le z deadline budget now frames
  have hlt := @length_steps_lt τ _ z deadline now budget frames
  unfold Walk.queries
  rw [List.length_append]
  cases he : (walk z deadline budget now frames).ending with
  | completed | overBudget u => simpa [Ending.query?] using Nat.le_trans hsteps hle
  | outOfTime q u =>
    -- The last lookup is one for which there was a step left.
    have hone : q.toList.length ≤ 1 := by cases q <;> simp
    have := hlt (by rw [he]; rfl) (by simp [he])
    simp only [Ending.query?]
    omega
  | aborted q a =>
    have := hlt (by rw [he]; rfl) (by simp [he])
    simp only [Ending.query?, Option.toList_some, List.length_singleton]
    omega

/-! ## Domains met -/

/-- A walk meets no more domains than it is allowed lookups. -/
theorem length_nodes_walk_le : (walk z deadline budget now frames).nodes.length ≤ budget :=
  Nat.le_trans (List.length_filterMap_le _ _) (length_steps_walk_le z deadline budget now frames)

/-- The frames around a term that is due were open before. -/
theorem Due.length_outer_lt {d : Due} (h : next? frames = some d) :
    d.outer.length < frames.length := by
  induction frames with
  | nil => cases h
  | cons f outer ih =>
    unfold next? at h
    split at h
    · exact Nat.lt_succ_of_lt (ih h)
    · cases h
      exact Nat.lt_succ_self _

/-- A domain that is met stands one deeper than the record that refers to it. -/
theorem Due.Steps.depth_node {d : Due} {s : Step τ} {n : Node} (h : d.Steps z deadline now s)
    (hn : s.node? = some n) : n.depth = d.outer.length + 1 := by
  cases h <;> cases hn <;> rfl

omit [Seconds τ] in
/-- A step opens at most one record. -/
theorem Step.length_opened_le (s : Step τ) : s.opened.length ≤ 1 := by
  cases s <;> simp [Step.opened]

/-- Every record that is opened uses one lookup, so the budget bounds the depth. -/
theorem depth_lt_of_mem_nodes_walk {n : Node}
    (hn : n ∈ (walk z deadline budget now frames).nodes) : n.depth < frames.length + budget := by
  fun_induction walk z deadline budget now frames with
  | case1 | case2 | case3 | case4 => cases hn
  | case5 budget now frames d hd s hs w ih =>
    -- A step adds at most one frame and uses up one lookup, so the bound is kept.
    have houter := Due.length_outer_lt hd
    have hopened := s.length_opened_le
    simp only [Walk.nodes, List.mem_filterMap] at hn
    obtain ⟨s', hs', hn⟩ := hn
    rcases List.mem_cons.1 hs' with rfl | hs'
    · rw [(attempt_eq_stepped_iff.1 hs).depth_node hn]
      omega
    · have := ih (List.mem_filterMap.2 ⟨s', hs', hn⟩)
      simp only [Due.rest, List.length_append, List.length_cons] at this
      omega

end Walk

end Timing

end SenderPolicy
