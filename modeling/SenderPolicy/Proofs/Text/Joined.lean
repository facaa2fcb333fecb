import SenderPolicy.Text.Basic

/-!
# Texts that are joined

Texts are joined with a separator between each two. A text that is split at a code point is joined
again from its parts, and its parts are the only texts without the code point from which it is
(`parts_eq_iff`).
-/

namespace SenderPolicy.Text

variable {c : CodePoint} {s sep a b p : Text} {ps : List Text}

/-- A text alone is joined to nothing. -/
theorem joined_singleton (sep a : Text) : joined sep [a] = a := by
  simp [joined]

/-- Of two texts or more, the first is written in front of the others. -/
theorem joined_cons_cons (sep a b : Text) (rest : List Text) :
    joined sep (a :: b :: rest) = a ++ sep ++ joined sep (b :: rest) := by
  simp [joined]

/-- What texts are joined to begins with the first of them. -/
theorem exists_joined_cons (sep a : Text) (ps : List Text) :
    ∃ rest, joined sep (a :: ps) = a ++ rest := by
  cases ps with
  | nil => exact ⟨[], by rw [joined_singleton, List.append_nil]⟩
  | cons b ps => exact ⟨sep ++ joined sep (b :: ps), by rw [joined_cons_cons, List.append_assoc]⟩

/-- The characters of texts that are joined are those of the texts and of the separator. -/
theorem exists_of_mem_joined (hc : c ∈ joined sep ps) : c ∈ sep ∨ ∃ p ∈ ps, c ∈ p := by
  induction ps with
  | nil => cases hc
  | cons p ps ih =>
    cases ps with
    | nil =>
      rw [joined_singleton] at hc
      exact .inr ⟨p, List.mem_cons_self, hc⟩
    | cons next ps =>
      rw [joined_cons_cons, List.append_assoc] at hc
      rcases List.mem_append.1 hc with hc | hc
      · exact .inr ⟨p, List.mem_cons_self, hc⟩
      · rcases List.mem_append.1 hc with hc | hc
        · exact .inl hc
        · exact (ih hc).imp_right fun ⟨q, hq, hcq⟩ => ⟨q, List.mem_cons_of_mem _ hq, hcq⟩

/-- The characters of a text are characters of what it is joined to. -/
theorem mem_joined_of_mem (hp : p ∈ ps) (hc : c ∈ p) : c ∈ joined sep ps := by
  induction ps with
  | nil => cases hp
  | cons first ps ih =>
    cases ps with
    | nil =>
      rw [joined_singleton]
      rwa [← List.mem_singleton.1 hp]
    | cons next ps =>
      rw [joined_cons_cons, List.append_assoc]
      rcases List.mem_cons.1 hp with rfl | hp
      · exact List.mem_append_left _ hc
      · exact List.mem_append_right _ (List.mem_append_right _ (ih hp))

/-- The parts of a text between the places of a code point are texts without it from which the text
is joined. -/
theorem parts_eq_iff : parts c s = ps ↔
    ps ≠ [] ∧ s = joined [c] ps ∧ ∀ p ∈ ps, c ∉ p := by
  constructor
  · rintro rfl
    refine ⟨List.splitOn_ne_nil c s, (List.intercalate_splitOn c).symm, ?_⟩
    -- Before the first place of the code point there is none, and after it there is less of the
    -- text.
    induction hn : s.length using Nat.strongRecOn generalizing s with
    | ind n ih =>
      by_cases hc : c ∈ s
      · obtain ⟨before, after, rfl, hbefore⟩ := List.eq_append_cons_of_mem hc
        rw [List.length_append, List.length_cons] at hn
        unfold parts
        rw [List.splitOn_append_cons_self_of_not_mem hbefore]
        intro p hp
        rcases List.mem_cons.1 hp with rfl | hp
        · exact hbefore
        · exact ih after.length (by omega) rfl p hp
      · unfold parts
        rw [List.splitOn_eq_singleton hc]
        intro p hp
        rw [List.mem_singleton.1 hp]
        exact hc
  · rintro ⟨hne, rfl, hno⟩
    exact List.splitOn_intercalate c hno hne

/-- A text is its only part if it does not hold the code point. -/
theorem parts_eq_singleton_iff : parts c s = [a] ↔ s = a ∧ c ∉ a := by
  rw [parts_eq_iff]
  simp [joined]

/-- A text has two parts if it holds the code point once. -/
theorem parts_eq_pair_iff : parts c s = [a, b] ↔ s = a ++ c :: b ∧ c ∉ a ∧ c ∉ b := by
  rw [parts_eq_iff]
  simp [joined]

end SenderPolicy.Text
