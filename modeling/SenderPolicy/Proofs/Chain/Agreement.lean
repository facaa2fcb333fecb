import Mathlib.Tactic.Linarith
import SenderPolicy.Proofs.Chain.Loops

/-!
# Walks in zones that agree off the root

A walk never looks up its root. The root stays open to the end, outermost of the open records, so
every reference that leads back to it is a loop. Hence walks in two zones that agree off the root
are the same (`walk_of_agreeOff`).

The two need not be at the same time nor under the same deadline. A walk asks the clock only for the
seconds that remain until its deadline, so it is enough that these are the same for both, now and
after every sequence of lookups: then the clocks are in step (`InStep`).
-/

namespace SenderPolicy

/-- Two zones answer alike, and take as long, for every domain but one. -/
structure Zone.AgreeOff {τ : Type} (root : Text) (z z' : Zone τ) : Prop where
  /-- The answers are the same. -/
  answer : ∀ name, name ≠ root → z'.answer name = z.answer name
  /-- The answers take the same time. -/
  delay : ∀ name, name ≠ root → z'.delay name = z.delay name

/-! ## Clocks in step -/

section Clocks

variable {τ : Type} [Seconds τ] {z : Zone τ} {deadline deadline' now now' : τ}

/-- Two times, each under its own deadline, are in step: after the same lookups the same number of
seconds remains. -/
def InStep (z : Zone τ) (deadline now deadline' now' : τ) : Prop :=
  ∀ qs : List (Query τ), remaining deadline' (z.after now' qs) = remaining deadline (z.after now qs)

/-- Every time is in step with itself. -/
theorem InStep.refl (z : Zone τ) (deadline now : τ) : InStep z deadline now deadline now :=
  fun _ => rfl

/-- At times that are in step, the same number of seconds remains. -/
theorem InStep.remaining_eq (h : InStep z deadline now deadline' now') :
    remaining deadline' now' = remaining deadline now := h []

/-- Times that are in step are in step after the same lookups. -/
theorem InStep.after (h : InStep z deadline now deadline' now') (qs : List (Query τ)) :
    InStep z deadline (z.after now qs) deadline' (z.after now' qs) := by
  intro rs
  rw [← Zone.after_append, ← Zone.after_append]
  exact h (qs ++ rs)

end Clocks

/-- On an exact clock lookups take the same time whenever they are made. -/
theorem Zone.after_sub_eq (z : Zone Rat) (now now' : Rat) (qs : List (Query Rat)) :
    z.after now' qs - now' = z.after now qs - now := by
  induction qs generalizing now now' with
  | nil => simp [after]
  | cons q qs ih =>
    have hrest := ih (now + z.delay q.domain) (now' + z.delay q.domain)
    simp only [after]
    linarith

/-- On an exact clock two times are in step as soon as their deadlines are equally far away. -/
theorem InStep.of_sub_eq {z : Zone Rat} {deadline deadline' now now' : Rat}
    (h : deadline' - now' = deadline - now) : InStep z deadline now deadline' now' := by
  intro qs
  have hleft : deadline' - z.after now' qs = deadline - z.after now qs := by
    have hsame := z.after_sub_eq now now' qs
    linarith
  unfold remaining
  rw [hleft]

/-! ## Terms and walks -/

section Walks

variable {τ : Type} [Seconds τ] {z z' : Zone τ} {root : Text} {deadline deadline' now now' : τ}
  {d : Due}

/-- Below the root, a term leads to the same in both zones. -/
theorem attempt_of_agreeOff (hz : z.AgreeOff root z') (hroot : root ∈ d.path)
    (ht : InStep z deadline now deadline' now') :
    attempt z' deadline' now' d = attempt z deadline now d := by
  cases htarget : d.term.target? with
  | none => rw [attempt_of_target?_eq_none htarget, attempt_of_target?_eq_none htarget]
  | some p =>
    obtain ⟨link, target⟩ := p
    rw [attempt_of_target? htarget, attempt_of_target? htarget, ht.remaining_eq]
    by_cases hp : target ∈ d.path
    · rw [if_pos hp, if_pos hp]
    · -- The target is not open, so it is not the root.
      have hne : target ≠ root := by
        rintro rfl
        exact hp hroot
      have hlate : remaining deadline' (now' + z.delay target) =
          remaining deadline (now + z.delay target) := ht [⟨target, 0⟩]
      rw [if_neg hp, if_neg hp]
      simp only [lookUp, hz.answer target hne, hz.delay target hne, ht.remaining_eq, hlate]

/-- Below the root, a step takes the same time in both zones. -/
theorem doneAt_of_agreeOff {s : Step τ} (hz : z.AgreeOff root z') (hroot : root ∈ d.path)
    (hs : attempt z deadline now d = .stepped s) (now' : τ) :
    s.doneAt z' now' = s.doneAt z now' := by
  unfold Step.doneAt
  cases hq : s.query? with
  | none => rfl
  | some q =>
    obtain ⟨-, -, hp⟩ := target?_of_attempt_query? (q := q) hs hq
    have hne : q.domain ≠ root := by
      intro heq
      exact hp (heq ▸ hroot)
    show now' + z'.delay q.domain = now' + z.delay q.domain
    rw [hz.delay q.domain hne]

/-- In zones that agree off the root, walks at times that are in step do the same. -/
theorem walk_of_agreeOff (hz : z.AgreeOff root z') {budget : Nat} {frames : List Frame} :
    ∀ now', RootedAt root frames → InStep z deadline now deadline' now' →
      walk z' deadline' budget now' frames = walk z deadline budget now frames := by
  fun_induction walk z deadline budget now frames with
  | case1 now frames hd | case3 budget now frames hd =>
    intro now' _ _
    rw [walk_of_next?_eq_none _ hd]
  | case2 now frames d hd =>
    intro now' _ _
    simp only [walk, hd]
  | case4 budget now frames d hd e he =>
    intro now' hroot ht
    rw [walk_of_halted hd]
    rw [attempt_of_agreeOff hz (hroot.due hd).mem_path ht, he]
  | case5 budget now frames d hd s hs w ih =>
    intro now' hroot ht
    have hpath := (hroot.due hd).mem_path
    have hs' := (attempt_of_agreeOff hz hpath ht).trans hs
    -- The root is open after the step, and the times are in step after its lookup.
    have hrest := ih (s.doneAt z now') ((hroot.due hd).step s) (ht.after s.query?.toList)
    rw [walk_of_stepped hd hs', doneAt_of_agreeOff hz hpath hs, hrest]

end Walks

end SenderPolicy
