import SenderPolicy.Proofs.Chain.Reference

/-!
# The terms that are pending

`Due.next?` searches the open records for the first term that is charged. On its way it does two
things: it skips a term that is charged nothing, and it closes a record without terms. So what is
kept by these two holds when the term is found (`Due.of_next?`), or when none is left
(`Due.of_next?_eq_none`). No later proof has to follow the search itself.
-/

namespace SenderPolicy

/-- The terms of the record of a node. -/
def Node.terms (n : Node) : List Term := (n.record.map Record.terms).getD []

/-- The terms that open records have still to evaluate. -/
def pendingTerms (frames : List Frame) : List Term := frames.flatMap Frame.pending

namespace Due

/-- The open records when the term is due: it is the first that its record has to evaluate. -/
def frames (d : Due) : List Frame := ⟨d.source, d.term :: d.later⟩ :: d.outer

variable {domain : Text} {t : Term} {terms : List Term} {outer stack : List Frame} {d : Due}

/-! ## The search -/

/-- A record without terms is closed. -/
theorem next?_close : next? (⟨domain, []⟩ :: outer) = next? outer := by
  rw [next?]
  rfl

/-- A term that is charged nothing is skipped. -/
theorem next?_skip (ht : t.isChargeable = false) :
    next? (⟨domain, t :: terms⟩ :: outer) = next? (⟨domain, terms⟩ :: outer) := by
  have hc : t.charge = 0 := by rw [t.charge_eq, ht]; rfl
  rw [next?, next?, List.dropWhile_cons_of_pos (by simpa using hc)]

/-- A term that is charged is due. -/
theorem next?_due (ht : t.isChargeable = true) :
    next? (⟨domain, t :: terms⟩ :: outer) = some ⟨domain, t, terms, outer⟩ := by
  have hc : t.charge ≠ 0 := by rw [t.charge_eq, ht]; decide
  rw [next?, List.dropWhile_cons_of_neg (by simpa using hc)]

/-! ## What the search keeps -/

section Kept

variable {P : List Frame → Prop}
  (close : ∀ domain outer, P (⟨domain, []⟩ :: outer) → P outer)
  (skip : ∀ domain t terms outer, t.isChargeable = false → P (⟨domain, t :: terms⟩ :: outer) →
    P (⟨domain, terms⟩ :: outer))

include close skip

/-- What is kept by closing records and skipping terms holds when a term is due. -/
theorem of_next? (hd : next? stack = some d) (h : P stack) : P d.frames := by
  induction stack with
  | nil => cases hd
  | cons f outer ih =>
    obtain ⟨domain, pending⟩ := f
    induction pending with
    | nil => exact ih (next?_close.symm.trans hd) (close _ _ h)
    | cons t terms iht =>
      cases ht : t.isChargeable with
      | false => exact iht ((next?_skip ht).symm.trans hd) (skip _ _ _ _ ht h)
      | true =>
        cases (next?_due ht).symm.trans hd
        exact h

/-- What is kept by closing records and skipping terms holds when no term is left. -/
theorem of_next?_eq_none (hd : next? stack = none) (h : P stack) : P [] := by
  induction stack with
  | nil => exact h
  | cons f outer ih =>
    obtain ⟨domain, pending⟩ := f
    induction pending with
    | nil => exact ih (next?_close.symm.trans hd) (close _ _ h)
    | cons t terms iht =>
      cases ht : t.isChargeable with
      | false => exact iht ((next?_skip ht).symm.trans hd) (skip _ _ _ _ ht h)
      | true => cases (next?_due ht).symm.trans hd

end Kept

/-- A term that is due is charged. -/
theorem isChargeable_of_next? (hd : next? stack = some d) : d.term.isChargeable = true := by
  have hcharge := charge_of_next? hd
  rw [Term.charge_eq] at hcharge
  cases hc : d.term.isChargeable with
  | true => rfl
  | false =>
    rw [hc] at hcharge
    cases hcharge

end Due

end SenderPolicy
