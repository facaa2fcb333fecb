import SenderPolicy.Text.Basic

/-!
# Similar texts

How much two texts have in common: the longest part that both hold, and what the pieces before it
and the pieces after it have in common in the same way. Two texts are similar if three fifths of
their characters are matched.
-/

namespace SenderPolicy.Text

/-- The length of the common start of two texts. -/
def commonStart : Text → Text → Nat
  | a :: s, b :: t => if a = b then commonStart s t + 1 else 0
  | _, _ => 0

/-- The longest part that two texts hold in common: where it begins in either, and its length. Of
several the one that begins first is taken. -/
def longestCommon (s t : Text) : Nat × Nat × Nat :=
  let starts := (List.range s.length).flatMap fun i => (List.range t.length).map fun j => (i, j)
  starts.foldl (fun best (i, j) =>
    let n := commonStart (s.drop i) (t.drop j)
    if best.2.2 < n then (i, j, n) else best) (0, 0, 0)

/-- The number of characters of one text that are matched by characters of the other. Each step
matches at least one character, so the length of the first text bounds the steps. -/
def matched : (fuel : Nat) → Text → Text → Nat
  | 0, _, _ => 0
  | fuel + 1, s, t =>
    let (i, j, n) := longestCommon s t
    if n = 0 then 0
    else matched fuel (s.take i) (t.take j) + n + matched fuel (s.drop (i + n)) (t.drop (j + n))

/-- How similar two texts are: the matched characters of either among all of them. -/
def similarity (s t : Text) : Rat := mkRat (2 * matched s.length s t) (s.length + t.length)

/-- Whether three fifths of the characters of two texts are matched. -/
def isSimilar (s t : Text) : Bool := mkRat 3 5 ≤ similarity s t

/-- The most texts that are called close to another one. -/
def maxClose : Nat := 3

/-- The texts of a list that are the most similar ones to a text, in alphabetical order. -/
def closeTo (t : Text) (candidates : List Text) : List Text :=
  let scored := (candidates.filter (isSimilar · t)).map fun s => (similarity s t, s)
  let best := scored.mergeSort fun a b => b.1 < a.1 || (a.1 = b.1 && isAtMost b.2 a.2)
  ((best.take maxClose).map (·.2)).mergeSort isAtMost

/-- No text is called close to another one that is not similar to it. -/
theorem isSimilar_of_mem_closeTo {s t : Text} {candidates : List Text}
    (h : s ∈ closeTo t candidates) : isSimilar s t = true := by
  unfold closeTo at h
  rw [List.mem_mergeSort, List.mem_map] at h
  obtain ⟨p, hp, rfl⟩ := h
  have hp := List.mem_of_mem_take hp
  rw [List.mem_mergeSort, List.mem_map] at hp
  obtain ⟨u, hu, rfl⟩ := hp
  exact (List.mem_filter.1 hu).2

end SenderPolicy.Text
