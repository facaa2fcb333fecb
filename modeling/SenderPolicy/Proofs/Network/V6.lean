import SenderPolicy.Network.V6
import SenderPolicy.Proofs.Network.V4

/-!
# The grammar of IPv6 networks

An IPv6 address is written as eight groups of hexadecimal digits with colons between them, where an
IPv4 address may stand for the last two, or as fewer groups with two colons in the place of the
others. A scope may follow after a percent sign. `V6.isNetwork_iff` shows that the networks that are
accepted are such addresses, alone or with a number of leading bits.

The address is cut at the first two colons in a row. Groups are not empty and hold no colon, so two
colons in a row are never within the groups of one side (`cutColons?_joined_append`).
-/

namespace SenderPolicy.Network.V6

/-! ## Groups -/

/-- One to four hexadecimal digits. -/
def IsGroup (s : Text) : Prop := s ≠ [] ∧ s.length ≤ 4 ∧ ∀ c ∈ s, (hexValue? c).isSome = true

/-- Texts that stand for `n` groups: they are groups, or groups and an IPv4 address that stands for
two. -/
def AreGroups (n : Nat) (ps : List Text) : Prop :=
  (∀ p ∈ ps, IsGroup p) ∧ ps.length = n ∨
    ∃ (gs : List Text) (a : Text), ps = gs ++ [a] ∧ (∀ g ∈ gs, IsGroup g) ∧ V4.IsAddress a ∧
      gs.length + 2 = n

/-- Texts that stand for `n` groups, with colons between them. -/
def IsGroups (n : Nat) (s : Text) : Prop := ∃ ps, AreGroups n ps ∧ s = Text.joined ":" ps

/-- Eight groups, or fewer with two colons in the place of the others, of which those in front have
no IPv4 address among them. -/
def IsAddress (s : Text) : Prop :=
  IsGroups groupCount s ∨
    ∃ (gs : List Text) (n : Nat) (after : Text), (∀ g ∈ gs, IsGroup g) ∧ IsGroups n after ∧
      gs.length + n < groupCount ∧ s = Text.joined ":" gs ++ .char ':' :: .char ':' :: after

section Groups

variable {s p : Text} {ps : List Text} {n : Nat} {c : CodePoint}

/-- The groups that are accepted are one to four hexadecimal digits. -/
theorem isGroup_iff : isGroup s = true ↔ IsGroup s := by
  simp [isGroup, IsGroup, and_assoc]

/-- Neither colons nor dots nor percent signs are hexadecimal digits. -/
theorem hexValue?_sign : hexValue? ':' = none ∧ hexValue? '.' = none ∧ hexValue? '%' = none := by
  decide

/-- The digits of ASCII are hexadecimal ones. -/
theorem isSome_hexValue? (h : c.isDigit = true) : (hexValue? c).isSome = true := by
  simp [hexValue?, h]

/-- A group holds no character that is no hexadecimal digit. -/
theorem IsGroup.notMem (h : IsGroup p) (hc : hexValue? c = none) : c ∉ p := by
  intro hmem
  have hsome := h.2.2 c hmem
  rw [hc] at hsome
  cases hsome

/-- Nothing stands for a number of groups but no groups at all. -/
theorem areGroups_nil : AreGroups n [] ↔ n = 0 := by
  constructor
  · rintro (⟨-, rfl⟩ | ⟨gs, a, h, -⟩)
    · rfl
    · simp at h
  · rintro rfl
    exact .inl ⟨by simp, rfl⟩

/-- A text alone is a group or an IPv4 address. -/
theorem areGroups_singleton :
    AreGroups n [p] ↔ IsGroup p ∧ n = 1 ∨ V4.IsAddress p ∧ n = 2 := by
  constructor
  · rintro (⟨hp, rfl⟩ | ⟨gs, a, h, -, ha, rfl⟩)
    · exact .inl ⟨hp p List.mem_cons_self, rfl⟩
    · obtain ⟨rfl, rfl⟩ : gs = [] ∧ p = a := by
        cases gs with
        | nil => exact ⟨rfl, List.singleton_inj.1 h⟩
        | cons g gs => simp at h
      exact .inr ⟨ha, rfl⟩
  · rintro (⟨hp, rfl⟩ | ⟨hp, rfl⟩)
    · exact .inl ⟨by simpa using hp, rfl⟩
    · exact .inr ⟨[], p, rfl, by simp, hp, rfl⟩

/-- Of two texts or more, the first is a group. -/
theorem areGroups_cons {q : Text} :
    AreGroups n (p :: q :: ps) ↔ IsGroup p ∧ ∃ m, AreGroups m (q :: ps) ∧ m + 1 = n := by
  constructor
  · rintro (⟨hp, rfl⟩ | ⟨gs, a, h, hgs, ha, rfl⟩)
    · obtain ⟨hp, hps⟩ := List.forall_mem_cons.1 hp
      exact ⟨hp, _, .inl ⟨hps, rfl⟩, rfl⟩
    · cases gs with
      | nil => simp at h
      | cons g gs =>
        obtain ⟨rfl, hps⟩ := List.cons.inj h
        obtain ⟨hp, hgs⟩ := List.forall_mem_cons.1 hgs
        exact ⟨hp, _, .inr ⟨gs, a, hps, hgs, ha, rfl⟩, by simp [Nat.add_right_comm]⟩
  · rintro ⟨hp, m, ⟨hps, rfl⟩ | ⟨gs, a, h, hgs, ha, rfl⟩, rfl⟩
    · exact .inl ⟨List.forall_mem_cons.2 ⟨hp, hps⟩, rfl⟩
    · refine .inr ⟨p :: gs, a, by rw [h]; rfl, List.forall_mem_cons.2 ⟨hp, hgs⟩, ha, ?_⟩
      simp [Nat.add_right_comm]

/-- No group is an IPv4 address, which holds a dot. -/
theorem IsGroup.not_isAddress (h : IsGroup p) : ¬ V4.IsAddress p :=
  fun ha => h.notMem hexValue?_sign.2.1 ha.chars.2

/-- Texts that are counted as groups stand for them. -/
theorem countGroups?_eq_some_iff : countGroups? ps = some n ↔ AreGroups n ps := by
  induction ps generalizing n with
  | nil => simp [countGroups?, areGroups_nil, eq_comm]
  | cons p ps ih =>
    cases ps with
    | nil =>
      rw [areGroups_singleton, countGroups?]
      split
      · rename_i hp
        have hp := isGroup_iff.1 hp
        simp [hp, hp.not_isAddress, @eq_comm _ n]
      · rename_i hp
        rw [isGroup_iff] at hp
        split
        · rename_i ha
          simp [hp, V4.isSome_address?_iff.1 ha, @eq_comm _ n]
        · rename_i ha
          rw [V4.isSome_address?_iff] at ha
          simp [hp, ha]
    | cons q ps =>
      rw [countGroups?, areGroups_cons, ← isGroup_iff]
      · split
        · rename_i hp
          simp [hp, ih]
        · rename_i hp
          simp [hp]
      · simp

/-- A text that stands for groups is not empty, and its characters are hexadecimal digits and
dots. -/
theorem AreGroups.chars (h : AreGroups n ps) :
    ∀ p ∈ ps, p ≠ [] ∧ ∀ c ∈ p, (hexValue? c).isSome = true ∨ c = '.' := by
  have hgroup : ∀ {p : Text}, IsGroup p →
      p ≠ [] ∧ ∀ c ∈ p, (hexValue? c).isSome = true ∨ c = '.' :=
    fun hp => ⟨hp.1, fun c hc => .inl (hp.2.2 c hc)⟩
  intro p hp
  obtain ⟨hgroups, -⟩ | ⟨gs, a, rfl, hgs, ha, -⟩ := h
  · exact hgroup (hgroups p hp)
  · rcases List.mem_append.1 hp with hp | hp
    · exact hgroup (hgs p hp)
    · obtain rfl := List.mem_singleton.1 hp
      exact ⟨List.ne_nil_of_mem ha.chars.2,
        fun c hc => (ha.chars.1 c hc).imp_left isSome_hexValue?⟩

/-- A text that stands for groups holds no sign but dots. -/
theorem AreGroups.notMem (h : AreGroups n ps) (hp : p ∈ ps) (hc : hexValue? c = none)
    (hdot : c ≠ '.') : c ∉ p := by
  intro hmem
  rcases (h.chars p hp).2 c hmem with hsome | heq
  · rw [hc] at hsome
    cases hsome
  · exact hdot heq

/-- A text that stands for groups is not empty and holds no colon. -/
theorem AreGroups.facts (h : AreGroups n ps) : ∀ p ∈ ps, p ≠ [] ∧ .char ':' ∉ p :=
  fun p hp => ⟨(h.chars p hp).1, h.notMem hp hexValue?_sign.1 (by decide)⟩

/-- The parts of a text between colons are counted as groups if the text is not empty and written
with them. -/
theorem countGroups?_parts_iff :
    countGroups? (Text.parts ':' s) = some n ↔ s ≠ [] ∧ IsGroups n s := by
  constructor
  · intro h
    refine ⟨?_, _, countGroups?_eq_some_iff.1 h, (Text.parts_eq_iff.1 rfl).2.1⟩
    rintro rfl
    cases h
  · rintro ⟨hne, ps, hps, rfl⟩
    have hparts : Text.parts ':' (Text.joined ":" ps) = ps := by
      refine Text.parts_eq_iff.2 ⟨?_, rfl, fun p hp => (hps.facts p hp).2⟩
      rintro rfl
      exact hne rfl
    rw [hparts]
    exact countGroups?_eq_some_iff.2 hps

/-- A side of two colons is counted as groups if it is written with them. It may be empty. -/
theorem sideGroups?_eq_some_iff : sideGroups? s = some n ↔ IsGroups n s := by
  unfold sideGroups?
  split
  · rename_i hempty
    obtain rfl := List.isEmpty_iff.1 hempty
    constructor
    · intro h
      obtain rfl := Option.some.inj h
      exact ⟨[], areGroups_nil.2 rfl, rfl⟩
    · rintro ⟨ps, hps, hjoined⟩
      cases ps with
      | nil => rw [areGroups_nil.1 hps]
      | cons p ps =>
        -- What is joined of texts that are not empty is not empty.
        obtain ⟨c, hc⟩ := List.exists_mem_of_ne_nil p (hps.facts p List.mem_cons_self).1
        have hmem := @Text.mem_joined_of_mem c ":" p (p :: ps) List.mem_cons_self hc
        rw [← hjoined] at hmem
        cases hmem
  · rename_i hne
    rw [countGroups?_parts_iff]
    exact and_iff_right (by simpa using hne)

end Groups

/-! ## Two colons -/

section Colons

variable {s p before after : Text} {ps : List Text} {n : Nat}

/-- A text that is cut at two colons has them between the parts. -/
theorem eq_of_cutColons? (h : cutColons? s = some (before, after)) :
    s = before ++ .char ':' :: .char ':' :: after := by
  induction s generalizing before with
  | nil => cases h
  | cons c s ih =>
    unfold cutColons? at h
    split at h
    · rename_i heq
      cases h
      exact heq
    · rename_i heq
      obtain ⟨rfl, rfl⟩ := List.cons.inj heq
      obtain ⟨⟨before', after'⟩, hcut, heq⟩ := Option.map_eq_some_iff.1 h
      cases heq
      rw [ih hcut]
      rfl
    · cases h

/-- A character that does not begin two colons stands in front of the cut. -/
theorem cutColons?_cons {c : CodePoint} (h : c = .char ':' → s.head? ≠ some (.char ':')) :
    cutColons? (c :: s) = (cutColons? s).map (Prod.map (c :: ·) id) := by
  rw [cutColons?]
  · rfl
  · rintro rest rfl rfl
    exact h rfl rfl

/-- A text without colons stands in front of the cut. -/
theorem cutColons?_append (h : .char ':' ∉ p) (s : Text) :
    cutColons? (p ++ s) = (cutColons? s).map (Prod.map (p ++ ·) id) := by
  induction p with
  | nil =>
    show cutColons? s = (cutColons? s).map _
    cases cutColons? s <;> rfl
  | cons c p ih =>
    obtain ⟨hc, hp⟩ := not_or.1 fun hmem => h (List.mem_cons.2 hmem)
    rw [List.cons_append, cutColons?_cons fun heq => absurd heq.symm hc, ih hp, Option.map_map]
    rfl

/-- Texts that are not empty and hold no colon, joined by single ones, stand in front of the cut. -/
theorem cutColons?_joined_append (h : ∀ p ∈ ps, p ≠ [] ∧ .char ':' ∉ p) (s : Text) :
    cutColons? (Text.joined ":" ps ++ s) =
      (cutColons? s).map (Prod.map (Text.joined ":" ps ++ ·) id) := by
  induction ps with
  | nil =>
    show cutColons? s = (cutColons? s).map _
    cases cutColons? s <;> rfl
  | cons p ps ih =>
    obtain ⟨⟨-, hp⟩, hps⟩ := List.forall_mem_cons.1 h
    cases ps with
    | nil =>
      rw [Text.joined_singleton]
      exact cutColons?_append hp s
    | cons q ps =>
      -- After the colon comes the next text, which does not begin with another one.
      have hhead : (Text.joined ":" (q :: ps) ++ s).head? ≠ some (.char ':') := by
        obtain ⟨⟨hne, hq⟩, -⟩ := List.forall_mem_cons.1 hps
        obtain ⟨c, q, rfl⟩ := List.exists_cons_of_ne_nil hne
        obtain ⟨rest, hrest⟩ := Text.exists_joined_cons ":" (c :: q) ps
        rw [hrest, List.append_assoc]
        exact fun hc => hq (Option.some.inj hc ▸ List.mem_cons_self)
      have hsplit : ∀ s, Text.joined ":" (p :: q :: ps) ++ s =
          p ++ .char ':' :: (Text.joined ":" (q :: ps) ++ s) := by
        intro s
        rw [Text.joined_cons_cons, List.append_assoc, List.append_assoc]
        rfl
      rw [hsplit, cutColons?_append hp, cutColons?_cons fun _ => hhead, ih hps, Option.map_map,
        Option.map_map]
      exact congrArg (Option.map · _) (funext fun cut => Prod.ext (hsplit cut.1).symm rfl)

/-- Groups are not cut. -/
theorem IsGroups.cutColons? (h : IsGroups n s) : cutColons? s = none := by
  obtain ⟨ps, hps, rfl⟩ := h
  have hcut := cutColons?_joined_append hps.facts []
  rwa [List.append_nil] at hcut

/-- Groups in front of two colons are cut off there. -/
theorem cutColons?_groups (h : ∀ g ∈ ps, IsGroup g) (after : Text) :
    cutColons? (Text.joined ":" ps ++ .char ':' :: .char ':' :: after) =
      some (Text.joined ":" ps, after) := by
  have hps : AreGroups ps.length ps := .inl ⟨h, rfl⟩
  have hcut := cutColons?_joined_append hps.facts (.char ':' :: .char ':' :: after)
  simpa [cutColons?] using hcut

end Colons

/-! ## Addresses -/

section Address

variable {s : Text} {n : Nat}

/-- Groups with no dot in them have no IPv4 address among them. -/
theorem groups_iff : IsGroups n s ∧ .char '.' ∉ s ↔
    ∃ gs : List Text, (∀ g ∈ gs, IsGroup g) ∧ gs.length = n ∧ s = Text.joined ":" gs := by
  constructor
  · rintro ⟨⟨ps, ⟨hps, rfl⟩ | ⟨gs, a, rfl, hgs, ha, rfl⟩, rfl⟩, hdot⟩
    · exact ⟨ps, hps, rfl, rfl⟩
    · have hlast : a ∈ gs ++ [a] := List.mem_append_right _ List.mem_cons_self
      exact absurd (Text.mem_joined_of_mem hlast ha.chars.2) hdot
  · rintro ⟨gs, hgs, rfl, rfl⟩
    refine ⟨⟨gs, .inl ⟨hgs, rfl⟩, rfl⟩, fun hdot => ?_⟩
    rcases Text.exists_of_mem_joined hdot with hdot | ⟨g, hg, hdot⟩
    · exact absurd hdot (by decide)
    · exact (hgs g hg).notMem hexValue?_sign.2.1 hdot

/-- The addresses that are accepted are eight groups, or fewer with two colons. -/
theorem isAddress_iff : isAddress s = true ↔ IsAddress s := by
  unfold isAddress
  cases hcut : cutColons? s with
  | none =>
    have hnil : IsGroups groupCount s → s ≠ [] := by
      rintro h rfl
      cases sideGroups?_eq_some_iff.2 h
    simp only [decide_eq_true_eq, countGroups?_parts_iff]
    constructor
    · exact fun h => .inl h.2
    · rintro (h | ⟨gs, n, after, hgs, -, -, rfl⟩)
      · exact ⟨hnil h, h⟩
      · rw [cutColons?_groups hgs] at hcut
        cases hcut
  | some cut =>
    obtain ⟨before, after⟩ := cut
    constructor
    · intro h
      dsimp only at h
      split at h
      · rename_i m n hm hn
        simp only [Bool.and_eq_true, Bool.not_eq_true', decide_eq_true_eq] at h
        obtain ⟨hdot, hlt⟩ := h
        have hdot' : .char '.' ∉ before := by simpa using hdot
        obtain ⟨gs, hgs, rfl, hbefore⟩ := groups_iff.1 ⟨sideGroups?_eq_some_iff.1 hm, hdot'⟩
        exact .inr ⟨gs, n, after, hgs, sideGroups?_eq_some_iff.1 hn, hlt,
          hbefore ▸ eq_of_cutColons? hcut⟩
      · cases h
    · rintro (h | ⟨gs, n, after', hgs, hafter, hlt, rfl⟩)
      · rw [h.cutColons?] at hcut
        cases hcut
      · rw [cutColons?_groups hgs] at hcut
        cases hcut
        obtain ⟨hbefore, hdot⟩ := groups_iff.2 ⟨gs, hgs, rfl, rfl⟩
        simp [sideGroups?_eq_some_iff.2 hbefore, sideGroups?_eq_some_iff.2 hafter, hdot, hlt]

/-- No percent sign stands in an address. -/
theorem IsAddress.notMem_percent (h : IsAddress s) : .char '%' ∉ s := by
  have hgroups : ∀ {t : Text} {n : Nat}, IsGroups n t → .char '%' ∉ t := by
    rintro t n ⟨ps, hps, rfl⟩ hmem
    obtain hcolon | ⟨p, hp, hmemPart⟩ := Text.exists_of_mem_joined hmem
    · exact absurd hcolon (by decide)
    · exact hps.notMem hp hexValue?_sign.2.2 (by decide) hmemPart
  obtain h | ⟨gs, n, after, hgs, hafter, -, rfl⟩ := h
  · exact hgroups h
  · intro hmem
    rcases List.mem_append.1 hmem with hmem | hmem
    · exact hgroups (groups_iff.2 ⟨gs, hgs, rfl, rfl⟩).1 hmem
    · simp only [List.mem_cons] at hmem
      rcases hmem with hmem | hmem | hmem
      · exact absurd hmem (by decide)
      · exact absurd hmem (by decide)
      · exact hgroups hafter hmem

/-! ## Networks -/

/-- The networks that are accepted are addresses, alone or with a scope after a percent sign, and
then alone or with a number of leading bits after a slash. -/
theorem isNetwork_iff : isNetwork s = true ↔
    IsWithSuffix '/' (IsWithSuffix '%' IsAddress (· ≠ [])) (IsPrefixLength width) s := by
  have hscoped : ∀ a, isScopedAddress a = isWithSuffix '%' isAddress (!·.isEmpty) a := fun _ => rfl
  have htest : isNetwork s = isWithSuffix '/' isScopedAddress (isBitCount width) s := rfl
  rw [htest, isWithSuffix_iff]
  simp only [hscoped, isWithSuffix_iff, isAddress_iff, isBitCount_iff, Bool.not_eq_true',
    List.isEmpty_eq_false_iff]

/-- A network that is accepted has no scope if and only if it holds no percent sign. -/
theorem plain_iff (h : isNetwork s = true) :
    IsWithSuffix '/' IsAddress (IsPrefixLength width) s ↔ .char '%' ∉ s := by
  have hpercent : (CodePoint.char '%').isDigit = false := by decide
  constructor
  · rintro ⟨a, ha, -, rfl | ⟨b, hb, -, rfl⟩⟩
    · exact ha.notMem_percent
    · intro hmem
      simp only [List.mem_append, List.mem_cons] at hmem
      rcases hmem with hmem | hmem | hmem
      · exact ha.notMem_percent hmem
      · exact absurd hmem (by decide)
      · rw [hb.2.1 _ hmem] at hpercent
        cases hpercent
  · intro hno
    obtain ⟨a, ⟨a', ha, -, ha'⟩, hslash, hs⟩ := isNetwork_iff.1 h
    obtain rfl | ⟨scope, -, -, rfl⟩ := ha'
    · exact ⟨a, ha, hslash, hs⟩
    · refine absurd ?_ hno
      rcases hs with rfl | ⟨b, -, -, rfl⟩ <;> simp

end Address

end SenderPolicy.Network.V6
