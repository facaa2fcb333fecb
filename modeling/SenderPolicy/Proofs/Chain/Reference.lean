import SenderPolicy.Proofs.Chain.Step

/-!
# What a term is charged for and what it refers to

Both are a matter of the kind of the term and of its value, and are said here in these words:
`Term.isChargeable` for the kinds that are charged a lookup, `Term.RefersTo` for the domain whose
record a term asks for. `Term.charge_eq` and `Term.target?_eq_some_iff` show that this is what the
evaluation goes by.
-/

namespace SenderPolicy

/-! ## Kinds -/

/-- Keywords that are written alike are the same. -/
theorem Keyword.text_inj {k k' : Keyword} : k.text = k'.text ↔ k = k' := by
  constructor
  · intro h
    exact Option.some.inj (by rw [← Keyword.ofText?_text k, h, Keyword.ofText?_text])
  · rintro rfl
    rfl

/-- The keyword of the terms that a link comes from. -/
def Link.keyword : Link → Keyword
  | .includes => .includes
  | .redirect => .redirect

/-- A link goes by the keyword of its terms. -/
theorem Link.text_keyword (link : Link) : link.keyword.text = (link.name : Text) := by
  cases link <;> rfl

namespace Term

/-- The kinds of terms that are charged a lookup. -/
def chargedKinds : List Text := ["include", "redirect", "a", "mx", "ptr", "exists"]

/-- Whether a term is of a kind that is charged a lookup. -/
def isChargeable (t : Term) : Bool := chargedKinds.contains t.kind

/-- The kinds of terms that are followed to another record. -/
def followedKinds : List Text := ["include", "redirect"]

/-- Whether a term is followed: its kind is, and its target does not depend on the message under
evaluation. -/
def isFollowable (t : Term) : Bool :=
  followedKinds.contains t.kind && !(normalizeDomain t.value).contains '%'

/-- A term refers to a domain if it is an include mechanism or a redirect modifier and the domain
is the normal form of its value. The domain does not depend on the message under evaluation. -/
def RefersTo (t : Term) (link : Link) (name : Text) : Prop :=
  t.kind = (link.name : Text) ∧ normalizeDomain t.value = name ∧ ('%' : CodePoint) ∉ name

variable {t : Term} {link : Link} {name : Text}

/-- A term is charged a lookup if its kind is. -/
theorem charge_eq (t : Term) : t.charge = if t.isChargeable then 1 else 0 := by
  rcases t with _ | ⟨_, m⟩ | _ | _
  · rfl
  · cases m <;> rfl
  · rfl
  · rfl

/-- A term has a link if its kind is that of the link, and the link leads to its value. -/
theorem link?_eq_some_iff {text : Text} :
    t.link? = some (link, text) ↔ t.kind = (link.name : Text) ∧ t.value = text := by
  rw [← Link.text_keyword]
  constructor
  · intro h
    rcases t with _ | ⟨_, _ | _ | _ | _ | _ | _ | _ | _⟩ | _ | _ <;> cases h <;> exact ⟨rfl, rfl⟩
  · rintro ⟨hk, rfl⟩
    cases t with
    | version => cases link <;> exact absurd hk (by decide)
    | modifier text =>
      have hname : ("unknown-modifier" : Text) = link.keyword.text := hk
      cases link <;> exact absurd hname (by decide)
    | redirect domain =>
      have hl : Keyword.redirect = link.keyword := Keyword.text_inj.1 hk
      cases link <;> first | rfl | cases hl
    | mechanism q m =>
      have hm : m.keyword = link.keyword := Keyword.text_inj.1 hk
      cases link <;> cases m <;> first | rfl | cases hm

/-! ## Targets -/

/-- The target of a term is the domain that it refers to. -/
theorem target?_eq_some_iff : t.target? = some (link, name) ↔ t.RefersTo link name := by
  unfold target? RefersTo
  simp only [Option.filter_eq_some_iff, Option.map_eq_some_iff, Prod.mk.injEq, Prod.exists,
    link?_eq_some_iff]
  constructor
  · rintro ⟨⟨l, text, ⟨hk, rfl⟩, rfl, rfl⟩, hm⟩
    exact ⟨hk, rfl, by simpa [isMacro] using hm⟩
  · rintro ⟨hk, rfl, hm⟩
    exact ⟨⟨link, _, ⟨hk, rfl⟩, rfl, rfl⟩, by simpa [isMacro] using hm⟩

/-- A term without a target refers to no domain. -/
theorem target?_eq_none_iff : t.target? = none ↔ ∀ link name, ¬ t.RefersTo link name := by
  simp only [← target?_eq_some_iff, Option.eq_none_iff_forall_ne_some, Prod.forall]

/-- A term refers to one domain at most. -/
theorem RefersTo.unique {link' : Link} {name' : Text} (h : t.RefersTo link name)
    (h' : t.RefersTo link' name') : link = link' ∧ name = name' := by
  have heq := (target?_eq_some_iff.2 h).symm.trans (target?_eq_some_iff.2 h')
  exact Prod.mk.inj (Option.some.inj heq)

/-- The kinds that are followed are those of the links. -/
theorem kind_mem_followedKinds_iff :
    t.kind ∈ followedKinds ↔ ∃ link : Link, t.kind = (link.name : Text) := by
  simp only [followedKinds, List.mem_cons, List.not_mem_nil, or_false]
  constructor
  · rintro (h | h)
    · exact ⟨.includes, h⟩
    · exact ⟨.redirect, h⟩
  · rintro ⟨_ | _, h⟩
    · exact .inl h
    · exact .inr h

/-- A term is followed if it has a target. -/
theorem isFollowable_eq (t : Term) : t.isFollowable = t.target?.isSome := by
  rw [Bool.eq_iff_iff, Option.isSome_iff_exists]
  simp only [isFollowable, Bool.and_eq_true, Prod.exists, target?_eq_some_iff, RefersTo,
    Bool.not_eq_true', List.contains_eq_mem, decide_eq_false_iff_not, decide_eq_true_eq,
    kind_mem_followedKinds_iff]
  constructor
  · rintro ⟨⟨link, hk⟩, hm⟩
    exact ⟨link, _, hk, rfl, hm⟩
  · rintro ⟨link, name, hk, rfl, hm⟩
    exact ⟨⟨link, hk⟩, hm⟩

/-- A term that is followed is charged a lookup for it. -/
theorem isChargeable_of_isFollowable (h : t.isFollowable = true) : t.isChargeable = true := by
  rw [isFollowable_eq] at h
  obtain ⟨⟨link, name⟩, ht⟩ := Option.isSome_iff_exists.1 h
  have hone := charge_of_target? ht
  rw [charge_eq] at hone
  cases hc : t.isChargeable with
  | true => rfl
  | false =>
    rw [hc] at hone
    cases hone

/-- A term that is charged nothing refers to no domain. -/
theorem not_refersTo_of_not_isChargeable (h : t.isChargeable = false) :
    ¬ t.RefersTo link name := by
  intro href
  have hsome := target?_eq_some_iff.2 href
  have hcharged := isChargeable_of_isFollowable (by rw [t.isFollowable_eq, hsome]; rfl)
  rw [h] at hcharged
  cases hcharged

end Term

end SenderPolicy
