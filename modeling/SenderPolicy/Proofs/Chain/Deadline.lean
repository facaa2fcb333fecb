import SenderPolicy.Proofs.Chain.Step
import SenderPolicy.Proofs.Numeral.Order

/-!
# Deadlines

Of two deadlines that are set at the same time, the one that allows more seconds passes no earlier.
On an exact clock this is plain, and on a machine, where every sum is rounded, it holds because
rounding is monotone. `OrderedSeconds` asks no more of a clock than this.

Under a deadline that passes later, a term that is evaluated leads to the same step, up to the
seconds that its lookup may take (`Due.Steps.outlast`), and a term that ended the walk makes the
lookup that it made before (`Due.Halts.outlast`).
-/

namespace SenderPolicy

/-! ## Deadlines that pass later -/

section Outlasts

variable {τ : Type} [Seconds τ]

/-- A deadline passes no earlier than another one. -/
def Outlasts (deadline' deadline : τ) : Prop :=
  ∀ now, remaining deadline' now ≤ 0 → remaining deadline now ≤ 0

/-- Numbers of seconds in which the deadline that allows more of them passes no earlier. -/
class OrderedSeconds (τ : Type) [Seconds τ] : Prop where
  /-- Of two deadlines that are set at the same time, the one that allows more seconds outlasts the
  other. -/
  outlasts_of_le {d₁ d₂ : τ} (h : d₁ ≤ d₂) (start : τ) : Outlasts (start + d₂) (start + d₁)

end Outlasts

/-- A deadline that allows more exact seconds passes no earlier. -/
instance : OrderedSeconds Rat where
  outlasts_of_le {d₁ d₂} h start now hpassed := by
    rw [← not_lt, remaining_pos_iff, not_lt] at hpassed ⊢
    calc start + d₁ ≤ start + d₂ := by gcongr
      _ ≤ now := hpassed

/-- On a machine no time remains if the difference is not positive. -/
theorem Binary64.remaining_le_zero_iff {deadline now : Binary64} :
    remaining deadline now ≤ 0 ↔ ¬ 0 < deadline - now := by
  unfold remaining
  split
  · rename_i h
    refine iff_of_false (fun hle => ?_) (not_not.2 h)
    have hless : (0 : Binary64).isLess (deadline - now) = true := h
    have hnot : isAtMost (deadline - now) 0 = true := hle
    simp [isAtMost, hless] at hnot
  · rename_i h
    exact iff_of_true (by decide +kernel) h

/-- A deadline that allows more seconds passes no earlier, though the deadline and what remains
until it are rounded. -/
instance : OrderedSeconds Binary64 where
  outlasts_of_le {d₁ d₂} h start now hpassed := by
    rw [Binary64.remaining_le_zero_iff] at hpassed ⊢
    exact fun hpos => hpassed (Binary64.zero_lt_sub_of_le start now h hpos)

/-! ## The seconds that a lookup may take -/

section Retimed

variable {τ : Type}

/-- A step with other seconds that its lookup may take. -/
def Step.retimed (timeout : τ) : Step τ → Step τ
  | .unusable link q depth kind m => .unusable link { q with timeout } depth kind m
  | .entered link q depth r => .entered link { q with timeout } depth r
  | s => s

namespace Step

variable (timeout other : τ) (s : Step τ)

/-- The seconds that count are those set last. -/
@[simp]
theorem retimed_retimed : (s.retimed timeout).retimed other = s.retimed other := by
  cases s <;> rfl

/-- The domain that is met does not depend on the seconds. -/
@[simp]
theorem node?_retimed : (s.retimed timeout).node? = s.node? := by
  cases s <;> rfl

/-- The loop does not depend on the seconds. -/
@[simp]
theorem cycle?_retimed : (s.retimed timeout).cycle? = s.cycle? := by
  cases s <;> rfl

/-- The failure does not depend on the seconds. -/
@[simp]
theorem failure?_retimed : (s.retimed timeout).failure? = s.failure? := by
  cases s <;> rfl

/-- The record that is opened does not depend on the seconds. -/
@[simp]
theorem opened_retimed : (s.retimed timeout).opened = s.opened := by
  cases s <;> rfl

/-- The domain that is looked up does not depend on the seconds. -/
@[simp]
theorem map_domain_query?_retimed :
    (s.retimed timeout).query?.map Query.domain = s.query?.map Query.domain := by
  cases s <;> rfl

end Step

end Retimed

/-! ## What a later deadline changes -/

section Timing

variable {τ : Type} [Seconds τ] {z : Zone τ} {deadline deadline' now : τ} {d : Due}

/-- A lookup takes as long as it takes, whatever it may take. -/
@[simp]
theorem Step.doneAt_retimed (z : Zone τ) (timeout now : τ) (s : Step τ) :
    (s.retimed timeout).doneAt z now = s.doneAt z now := by
  cases s <;> rfl

/-- Under a deadline that passes no earlier, a term leads to the same step. -/
theorem Due.Steps.outlast {s : Step τ} (h : d.Steps z deadline now s)
    (ho : Outlasts deadline' deadline) :
    d.Steps z deadline' now (s.retimed (remaining deadline' now)) := by
  cases h with
  | charged ht => exact .charged ht
  | loop ht hp => exact .loop ht hp
  | unusable ht hp hr hz hl =>
    exact .unusable ht hp (fun hpassed => hr (ho now hpassed)) hz
      fun hlate hpassed => hl hlate (ho _ hpassed)
  | entered ht hp hr hz hread =>
    exact .entered ht hp (fun hpassed => hr (ho now hpassed)) hz hread

/-- Under a deadline that passes no earlier, a term that ended the walk by its lookup is looked up
again. -/
theorem Due.Halts.outlast {e : Ending τ} {q : Query τ} (h : d.Halts z deadline now e)
    (ho : Outlasts deadline' deadline) (hq : e.query? = some q) :
    ∃ q', (attempt z deadline' now d).query? = some q' ∧ q'.domain = q.domain := by
  cases h with
  | overdue => cases hq
  | late ht hp hr | unreadable ht hp hr | broken ht hp hr =>
    cases hq
    exact ⟨_, query?_attempt ht hp fun hpassed => hr (ho now hpassed), rfl⟩

end Timing

end SenderPolicy
