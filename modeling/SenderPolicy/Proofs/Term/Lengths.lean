import SenderPolicy.Term.Reader

/-!
# The grammar of CIDR lengths

`Lengths.read?` cuts the lengths of a target off the front of a text. `read?_eq_some_iff` says which
texts it reads, by writing them: the digits of the IPv4 length after one slash, those of the IPv6
length after two. Lengths are oversized if the first of them that is not within its bound has more
digits than can be read; `oversized_checkLengths_iff` shows that these are the lengths at which the
check of a target breaks off.
-/

namespace SenderPolicy

section Cut

variable {α : Type} {p : α → Bool} {xs ys : List α}

/-- What is taken from the front of a text ends where the first other item stands. -/
theorem takeWhile_append_of_head? (hx : ∀ x ∈ xs, p x = true) (hy : ∀ y ∈ ys.head?, p y = false) :
    (xs ++ ys).takeWhile p = xs := by
  rw [List.takeWhile_append_of_pos hx]
  cases ys with
  | nil => simp
  | cons y ys => simp [hy y rfl]

/-- What is left of a text begins where the first other item stands. -/
theorem dropWhile_append_of_head? (hx : ∀ x ∈ xs, p x = true) (hy : ∀ y ∈ ys.head?, p y = false) :
    (xs ++ ys).dropWhile p = ys := by
  rw [List.dropWhile_append_of_pos hx]
  cases ys with
  | nil => rfl
  | cons y ys => simp [hy y rfl]

end Cut

/-- A run of decimal digits. -/
def IsDigitRun (ds : Text) : Prop := ds ≠ [] ∧ ∀ c ∈ ds, isDecimalDigit c = true

namespace Lengths

/-- Lengths as they are written. -/
def written (l : Lengths) : Text :=
  (match l.v4 with
    | some ds => '/' :: ds
    | none => []) ++
  match l.v6 with
    | some ds => '/' :: '/' :: ds
    | none => []

/-- Every length that is there is a run of digits. -/
structure IsNumeric (l : Lengths) : Prop where
  /-- The digits of the IPv4 length. -/
  v4 : ∀ ds ∈ l.v4, IsDigitRun ds
  /-- The digits of the IPv6 length. -/
  v6 : ∀ ds ∈ l.v6, IsDigitRun ds

/-- The first length that is not within its bound has more digits than can be read. -/
def IsOversized (l : Lengths) : Prop :=
  (∃ ds ∈ l.v4, maxDigits < ds.length) ∨
    (∀ ds ∈ l.v4, ds.length ≤ maxDigits ∧ decimalValue ds ≤ Network.V4.width) ∧
      ∃ ds ∈ l.v6, maxDigits < ds.length

/-! ## Reading lengths -/

/-- Digits that are read stand after a slash, and no digit follows them. -/
theorem cutDigits?_eq_some_iff {s ds rest : Text} : cutDigits? s = some (ds, rest) ↔
    s = .char '/' :: (ds ++ rest) ∧ IsDigitRun ds ∧ ∀ c ∈ rest.head?, isDecimalDigit c = false := by
  constructor
  · intro h
    unfold cutDigits? at h
    split at h
    · rename_i tail
      dsimp only at h
      split at h
      · cases h
      · rename_i hne
        cases h
        refine ⟨by rw [List.takeWhile_append_dropWhile], ⟨by simpa using hne, ?_⟩, ?_⟩
        · exact List.all_eq_true.1 List.all_takeWhile
        · intro c hc
          have := List.head?_dropWhile_not isDecimalDigit tail
          rw [Option.mem_def.1 hc] at this
          simpa using this
    · cases h
  · rintro ⟨rfl, ⟨hne, hds⟩, hrest⟩
    have htake := takeWhile_append_of_head? hds hrest
    have hdrop := dropWhile_append_of_head? hds hrest
    simp [cutDigits?, htake, hdrop, hne]

/-- What does not begin with a digit after a slash has no digits cut off. -/
theorem cutDigits?_slash {c : CodePoint} {rest : Text} (hc : isDecimalDigit c = false) :
    cutDigits? (.char '/' :: c :: rest) = none := by
  simp [cutDigits?, hc]

/-- The IPv6 length is read if it is written after two slashes. -/
theorem readV6?_eq_some_iff {v4 : Option Text} {s : Text} {l : Lengths} : readV6? v4 s = some l ↔
    l.v4 = v4 ∧ (∀ ds ∈ l.v6, IsDigitRun ds) ∧ s = written ⟨none, l.v6⟩ := by
  constructor
  · intro h
    unfold readV6? at h
    split at h
    · cases h
      simp [written]
    · rename_i rest
      split at h
      · rename_i ds hcut
        cases h
        obtain ⟨rfl, hds, -⟩ := cutDigits?_eq_some_iff.1 hcut
        simpa [written] using hds
      · cases h
    · cases h
  · obtain ⟨v4', v6⟩ := l
    rintro ⟨rfl, hv6, rfl⟩
    cases v6 with
    | none => rfl
    | some ds =>
      have hcut : cutDigits? (.char '/' :: ds) = some (ds, []) :=
        cutDigits?_eq_some_iff.2 ⟨by rw [List.append_nil], hv6 ds rfl, by simp⟩
      simp [written, readV6?, hcut]

/-- The lengths that are read are those that the text writes. -/
theorem read?_eq_some_iff {s : Text} {l : Lengths} :
    read? s = some l ↔ l.IsNumeric ∧ s = l.written := by
  have hslash : isDecimalDigit '/' = false := by decide
  constructor
  · intro h
    unfold read? at h
    split at h
    · rename_i ds rest hcut
      obtain ⟨hv4, hv6, rfl⟩ := readV6?_eq_some_iff.1 h
      obtain ⟨rfl, hds, -⟩ := cutDigits?_eq_some_iff.1 hcut
      exact ⟨⟨by simpa [hv4] using hds, hv6⟩, by simp [written, hv4]⟩
    · obtain ⟨hv4, hv6, rfl⟩ := readV6?_eq_some_iff.1 h
      exact ⟨⟨by simp [hv4], hv6⟩, by simp [written, hv4]⟩
  · obtain ⟨v4, v6⟩ := l
    rintro ⟨⟨hv4, hv6⟩, rfl⟩
    unfold read?
    -- What follows the IPv4 length does not begin with a digit, and neither does what follows the
    -- first slash if there is no IPv4 length.
    cases v4 with
    | none =>
      have hcut : cutDigits? (written ⟨none, v6⟩) = none := by
        cases v6 with
        | none => rfl
        | some ds => exact cutDigits?_slash hslash
      rw [hcut]
      exact readV6?_eq_some_iff.2 ⟨rfl, hv6, rfl⟩
    | some ds =>
      have hcut : cutDigits? (written ⟨some ds, v6⟩) = some (ds, written ⟨none, v6⟩) := by
        refine cutDigits?_eq_some_iff.2 ⟨by simp [written], hv4 ds rfl, ?_⟩
        cases v6 <;> simp [written, hslash]
      rw [hcut]
      exact readV6?_eq_some_iff.2 ⟨rfl, hv6, rfl⟩

/-! ## Checking lengths -/

/-- The check of a length breaks off if it has too many digits. -/
theorem checkBound_eq_oversized_iff {digits : Option Text} {bound n : Nat} {m : Malformation} :
    checkBound digits bound m = .error (.oversized n) ↔
      ∃ ds ∈ digits, maxDigits < ds.length ∧ ds.length = n := by
  unfold checkBound
  cases digits with
  | none => simp
  | some ds =>
    by_cases hlong : maxDigits < ds.length
    · simp [hlong]
    · by_cases hbound : bound < decimalValue ds <;> simp [hlong, hbound]

/-- A length is in order if it can be read and is within its bound. -/
theorem checkBound_eq_ok_iff {digits : Option Text} {bound : Nat} {m : Malformation} :
    checkBound digits bound m = .ok () ↔
      ∀ ds ∈ digits, ds.length ≤ maxDigits ∧ decimalValue ds ≤ bound := by
  unfold checkBound
  cases digits with
  | none => simp
  | some ds =>
    by_cases hlong : maxDigits < ds.length
    · simp [hlong, Nat.not_le.2 hlong]
    · by_cases hbound : bound < decimalValue ds
      · simp [hlong, hbound]
      · simp [hlong, hbound, Nat.not_lt.1 hlong, Nat.not_lt.1 hbound]

/-- The checks of both lengths break off if the lengths are oversized. -/
theorem oversized_checkBounds_iff {l : Lengths} {m m' : Malformation} :
    (∃ n, (do checkBound l.v4 Network.V4.width m; checkBound l.v6 Network.V6.width m') =
        .error (.oversized n)) ↔ l.IsOversized := by
  -- The second check is made only if the first one passes.
  have hbind : ∀ (first second : Except TokenError Unit) (e : TokenError),
      (do first; second) = .error e ↔ first = .error e ∨ first = .ok () ∧ second = .error e := by
    intro first second e
    cases first <;> simp [bind, Except.bind]
  simp only [hbind, checkBound_eq_oversized_iff, checkBound_eq_ok_iff, IsOversized]
  constructor
  · rintro ⟨n, ⟨ds, hds, hlong, -⟩ | ⟨hok, ds, hds, hlong, -⟩⟩
    · exact .inl ⟨ds, hds, hlong⟩
    · exact .inr ⟨hok, ds, hds, hlong⟩
  · rintro (⟨ds, hds, hlong⟩ | ⟨hok, ds, hds, hlong⟩)
    · exact ⟨_, .inl ⟨ds, hds, hlong, rfl⟩⟩
    · exact ⟨_, .inr ⟨hok, ds, hds, hlong, rfl⟩⟩

end Lengths

/-- Unless it finds no lengths, the check of a target ends as the checks of its lengths do. -/
theorem checkLengths_eq_iff {target : Text} {r : Except TokenError Unit}
    (hr : r ≠ .error (.malformed .badLength)) :
    checkLengths target = r ↔
      ∃ l : Lengths, l.IsNumeric ∧
        (do Lengths.checkBound l.v4 Network.V4.width .badLength4
            Lengths.checkBound l.v6 Network.V6.width .badLength6) = r ∧
        Text.dropFinal '\n' (target.dropWhile (· ≠ .char '/')) = l.written := by
  unfold checkLengths
  cases hread : Lengths.read? (Text.dropFinal '\n' (target.dropWhile (· ≠ .char '/'))) with
  | none =>
    refine iff_of_false (fun h => hr h.symm) ?_
    rintro ⟨l, hl, -, hw⟩
    rw [Lengths.read?_eq_some_iff.2 ⟨hl, hw⟩] at hread
    cases hread
  | some lengths =>
    obtain ⟨hnumeric, hwritten⟩ := Lengths.read?_eq_some_iff.1 hread
    refine ⟨fun h => ⟨lengths, hnumeric, h, hwritten⟩, ?_⟩
    rintro ⟨l, hl, h, hw⟩
    -- The text writes no other lengths than those that were read.
    rw [Lengths.read?_eq_some_iff.2 ⟨hl, hw⟩] at hread
    cases hread
    exact h

/-- The check of a target breaks off if the lengths after its host are oversized. -/
theorem oversized_checkLengths_iff {target : Text} :
    (∃ n, checkLengths target = .error (.oversized n)) ↔
      ∃ l : Lengths, l.IsNumeric ∧ l.IsOversized ∧
        Text.dropFinal '\n' (target.dropWhile (· ≠ .char '/')) = l.written := by
  constructor
  · rintro ⟨n, h⟩
    obtain ⟨l, hl, hn, hw⟩ := (checkLengths_eq_iff (by simp)).1 h
    exact ⟨l, hl, Lengths.oversized_checkBounds_iff.1 ⟨n, hn⟩, hw⟩
  · rintro ⟨l, hl, ho, hw⟩
    obtain ⟨n, hn⟩ := Lengths.oversized_checkBounds_iff.2 ho
    exact ⟨n, (checkLengths_eq_iff (by simp)).2 ⟨l, hl, hn, hw⟩⟩

end SenderPolicy
