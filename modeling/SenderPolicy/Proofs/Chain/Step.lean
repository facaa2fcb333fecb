import SenderPolicy.Chain.Walk

/-!
# What the evaluation of a term leads to

`attempt` decides by a cascade of tests what becomes of a term that is due. `Due.Steps` and
`Due.Halts` list the outcomes one by one, each with all that was found on the way to it, and
`attempt_eq_stepped_iff` and `attempt_eq_halted_iff` say that they are the outcomes. What a walk
keeps is proved from these cases and not from the tests.

Of a zone the cases name only two things: the record that a domain publishes, and the refusal of a
domain whose lookup yields none.
-/

namespace SenderPolicy

/-- The domain that a term refers to, in its normal form. A term whose target depends on the
message under evaluation refers to none. -/
def Term.target? (t : Term) : Option (Link × Text) :=
  (t.link?.map fun (link, text) => (link, normalizeDomain text)).filter fun (_, name) =>
    !isMacro name

/-- A term that refers to a domain is charged one lookup. -/
theorem Term.charge_of_target? {t : Term} {link : Link} {target : Text}
    (h : t.target? = some (link, target)) : t.charge = 1 := by
  rcases t with _ | ⟨_, _ | _ | _ | _ | _ | _ | _ | _⟩ | _ | _ <;>
    first | rfl | simp [target?, link?] at h

section Zone

variable {τ : Type} (z : Zone τ) (domain : Text)

/-- The first SPF record that a domain publishes. -/
def Zone.published? : Option Text :=
  match z.answer domain with
  | .texts texts => (selectSpfRecords texts).head?
  | _ => none

/-- Why a domain that is looked up has no record, and what is said of it. -/
def Zone.refusal? : Option (FailureKind × Text) :=
  match z.answer domain with
  | .texts texts =>
    if (selectSpfRecords texts).isEmpty then some (.missing, noRecordMessage domain) else none
  | .notFound m => some (.missing, m)
  | .timedOut m | .failed m => some (.lookupFailed, m)
  | .broken _ => none

/-- No domain is refused because of what its record says. -/
theorem Zone.kind_ne_invalid_of_refusal? {z : Zone τ} {domain m : Text} {kind : FailureKind}
    (h : z.refusal? domain = some (kind, m)) : kind ≠ .invalid := by
  rintro rfl
  unfold refusal? at h
  split at h
  · split at h <;> simp at h
  all_goals simp at h

/-- A domain that is refused publishes no record. -/
theorem Zone.published?_of_refusal? {z : Zone τ} {domain : Text} {p : FailureKind × Text}
    (h : z.refusal? domain = some p) : z.published? domain = none := by
  unfold refusal? at h
  unfold published?
  cases ha : z.answer domain with
  | texts texts =>
    rw [ha] at h
    cases hs : selectSpfRecords texts with
    | nil => simp [hs]
    | cons raw others => simp [hs] at h
  | _ => rfl

/-- The first of the records that are selected is published. -/
theorem Zone.published?_of_select {z : Zone τ} {domain raw : Text} {texts others : List Text}
    (ha : z.answer domain = .texts texts) (hs : selectSpfRecords texts = raw :: others) :
    z.published? domain = some raw := by
  simp [published?, ha, hs]

/-- A published record is an SPF record. -/
theorem Zone.isSpfRecord_of_published? {z : Zone τ} {domain raw : Text}
    (h : z.published? domain = some raw) : isSpfRecord raw = true := by
  unfold published? at h
  split at h
  · exact (List.mem_filter.1 (List.mem_of_head? h)).2
  · cases h

end Zone

section Timing

variable {τ : Type} [Seconds τ]

namespace Due

/-- What becomes of a term that is due, if the walk goes on after it. -/
inductive Steps (z : Zone τ) (deadline now : τ) (d : Due) : Step τ → Prop
  /-- The term refers to no domain. -/
  | charged (ht : d.term.target? = none) : Steps z deadline now d (.charged d.source d.term)
  /-- The term refers to a domain whose record is open. -/
  | loop {link : Link} {target : Text} (ht : d.term.target? = some (link, target))
      (hp : target ∈ d.path) : Steps z deadline now d (.loop d.source link target)
  /-- The lookup yields no record. If the answer came too late, there is time left after it. -/
  | unusable {link : Link} {target : Text} {kind : FailureKind} {m : Text}
      (ht : d.term.target? = some (link, target)) (hp : target ∉ d.path)
      (hr : ¬ remaining deadline now ≤ 0) (hz : z.refusal? target = some (kind, m))
      (hl : z.answer target = .timedOut m → ¬ remaining deadline (now + z.delay target) ≤ 0) :
      Steps z deadline now d (.unusable link ⟨target, remaining deadline now⟩ d.depth kind m)
  /-- The lookup yields a record that can be read. -/
  | entered {link : Link} {target raw : Text} {r : Record}
      (ht : d.term.target? = some (link, target)) (hp : target ∉ d.path)
      (hr : ¬ remaining deadline now ≤ 0) (hz : z.published? target = some raw)
      (hread : Record.read raw target = .ok r) :
      Steps z deadline now d (.entered link ⟨target, remaining deadline now⟩ d.depth r)

/-- How the evaluation of a term that is due ends the walk. -/
inductive Halts (z : Zone τ) (deadline now : τ) (d : Due) : Ending τ → Prop
  /-- No time is left for the lookup. -/
  | overdue {link : Link} {target : Text} (ht : d.term.target? = some (link, target))
      (hp : target ∉ d.path) (hr : remaining deadline now ≤ 0) :
      Halts z deadline now d (.outOfTime none d.unresolved)
  /-- The answer comes too late, and no time is left after it. -/
  | late {link : Link} {target m : Text} (ht : d.term.target? = some (link, target))
      (hp : target ∉ d.path) (hr : ¬ remaining deadline now ≤ 0)
      (hz : z.answer target = .timedOut m) (hl : remaining deadline (now + z.delay target) ≤ 0) :
      Halts z deadline now d (.outOfTime (some ⟨target, remaining deadline now⟩) d.unresolved)
  /-- The record cannot be read. -/
  | unreadable {link : Link} {target raw : Text} {a : Abort}
      (ht : d.term.target? = some (link, target)) (hp : target ∉ d.path)
      (hr : ¬ remaining deadline now ≤ 0) (hz : z.published? target = some raw)
      (hread : Record.read raw target = .error a) :
      Halts z deadline now d (.aborted ⟨target, remaining deadline now⟩ a)
  /-- The source itself failed. -/
  | broken {link : Link} {target m : Text} (ht : d.term.target? = some (link, target))
      (hp : target ∉ d.path) (hr : ¬ remaining deadline now ≤ 0)
      (hz : z.answer target = .broken m) :
      Halts z deadline now d (.aborted ⟨target, remaining deadline now⟩ (.source m))

end Due

variable {z : Zone τ} {deadline now : τ} {d : Due}

/-! ## The tests of `attempt` -/

/-- A term that refers to no domain is charged and nothing else. -/
theorem attempt_of_target?_eq_none (h : d.term.target? = none) :
    attempt z deadline now d = .stepped (.charged d.source d.term) := by
  unfold Term.target? at h
  unfold attempt
  cases hl : d.term.link? with
  | none => rfl
  | some p =>
    obtain ⟨link, text⟩ := p
    have hm : isMacro (normalizeDomain text) = true := by simpa [hl] using h
    simp only [hm, if_true]

/-- A term that refers to a domain is looked up, unless the record of the domain is open or no
time is left. -/
theorem attempt_of_target? {link : Link} {target : Text}
    (h : d.term.target? = some (link, target)) : attempt z deadline now d =
      if target ∈ d.path then .stepped (.loop d.source link target)
      else if remaining deadline now ≤ 0 then .halted (.outOfTime none d.unresolved)
      else lookUp z deadline now d link target := by
  unfold Term.target? at h
  unfold attempt
  cases hl : d.term.link? with
  | none => simp [hl] at h
  | some p =>
    obtain ⟨link', text⟩ := p
    -- The filter on `target?` is the test for a name that depends on the message.
    rw [hl] at h
    simp only [Option.map_some, Option.filter_eq_some_iff, Option.some.injEq, Prod.mk.injEq,
      Bool.not_eq_true'] at h
    obtain ⟨⟨rfl, rfl⟩, hm⟩ := h
    simp only [hm, Bool.false_eq_true, if_false, List.contains_iff_mem]

/-- What the lookup of a domain leads to, if the walk goes on after it. -/
theorem lookUp_eq_stepped_iff {link : Link} {target : Text} {s : Step τ} :
    lookUp z deadline now d link target = .stepped s ↔
      (∃ kind m, z.refusal? target = some (kind, m) ∧
        (z.answer target = .timedOut m → ¬ remaining deadline (now + z.delay target) ≤ 0) ∧
        s = .unusable link ⟨target, remaining deadline now⟩ d.depth kind m) ∨
      ∃ raw r, z.published? target = some raw ∧ Record.read raw target = .ok r ∧
        s = .entered link ⟨target, remaining deadline now⟩ d.depth r := by
  unfold lookUp Zone.refusal? Zone.published?
  cases z.answer target with
  | texts texts =>
    simp only [openRecord]
    cases selectSpfRecords texts with
    | nil => simp [eq_comm, and_assoc]
    | cons raw others =>
      cases hr : Record.read raw target <;> simp [hr, eq_comm]
  | notFound m => simp [eq_comm, and_assoc]
  | timedOut m =>
    -- The only answer whose outcome depends on the clock.
    by_cases hl : remaining deadline (now + z.delay target) ≤ 0 <;>
      simp [hl, eq_comm, and_assoc]
  | failed m => simp [eq_comm, and_assoc]
  | broken m => simp

/-- How the lookup of a domain ends the walk. -/
theorem lookUp_eq_halted_iff {link : Link} {target : Text} {e : Ending τ} :
    lookUp z deadline now d link target = .halted e ↔
      (∃ m, z.answer target = .timedOut m ∧ remaining deadline (now + z.delay target) ≤ 0 ∧
        e = .outOfTime (some ⟨target, remaining deadline now⟩) d.unresolved) ∨
      (∃ raw a, z.published? target = some raw ∧ Record.read raw target = .error a ∧
        e = .aborted ⟨target, remaining deadline now⟩ a) ∨
      ∃ m, z.answer target = .broken m ∧
        e = .aborted ⟨target, remaining deadline now⟩ (.source m) := by
  unfold lookUp Zone.published?
  cases z.answer target with
  | texts texts =>
    simp only [openRecord]
    cases selectSpfRecords texts with
    | nil => simp
    | cons raw others =>
      cases hr : Record.read raw target <;> simp [hr, eq_comm]
  | notFound m => simp
  | timedOut m =>
    by_cases hl : remaining deadline (now + z.delay target) ≤ 0 <;> simp [hl, eq_comm]
  | failed m => simp
  | broken m => simp [eq_comm]

/-! ## The outcomes of `attempt` -/

/-- The evaluation of a term lets the walk go on in the ways that `Due.Steps` lists. -/
theorem attempt_eq_stepped_iff {s : Step τ} :
    attempt z deadline now d = .stepped s ↔ d.Steps z deadline now s := by
  constructor
  · intro h
    cases ht : d.term.target? with
    | none =>
      rw [attempt_of_target?_eq_none ht] at h
      cases h
      exact .charged ht
    | some p =>
      obtain ⟨link, target⟩ := p
      rw [attempt_of_target? ht] at h
      split at h
      · rename_i hp
        cases h
        exact .loop ht hp
      · rename_i hp
        split at h
        · cases h
        · rename_i hr
          rcases lookUp_eq_stepped_iff.1 h with ⟨kind, m, hz, hl, rfl⟩ | ⟨raw, r, hz, hread, rfl⟩
          · exact .unusable ht hp hr hz hl
          · exact .entered ht hp hr hz hread
  · intro h
    cases h with
    | charged ht => exact attempt_of_target?_eq_none ht
    | loop ht hp => rw [attempt_of_target? ht, if_pos hp]
    | unusable ht hp hr hz hl =>
      rw [attempt_of_target? ht, if_neg hp, if_neg hr]
      exact lookUp_eq_stepped_iff.2 (.inl ⟨_, _, hz, hl, rfl⟩)
    | entered ht hp hr hz hread =>
      rw [attempt_of_target? ht, if_neg hp, if_neg hr]
      exact lookUp_eq_stepped_iff.2 (.inr ⟨_, _, hz, hread, rfl⟩)

/-- The evaluation of a term ends the walk in the ways that `Due.Halts` lists. -/
theorem attempt_eq_halted_iff {e : Ending τ} :
    attempt z deadline now d = .halted e ↔ d.Halts z deadline now e := by
  constructor
  · intro h
    cases ht : d.term.target? with
    | none =>
      rw [attempt_of_target?_eq_none ht] at h
      cases h
    | some p =>
      obtain ⟨link, target⟩ := p
      rw [attempt_of_target? ht] at h
      split at h
      · cases h
      · rename_i hp
        split at h
        · rename_i hr
          cases h
          exact .overdue ht hp hr
        · rename_i hr
          rcases lookUp_eq_halted_iff.1 h with ⟨m, hz, hl, rfl⟩ | ⟨raw, a, hz, hread, rfl⟩ |
            ⟨m, hz, rfl⟩
          · exact .late ht hp hr hz hl
          · exact .unreadable ht hp hr hz hread
          · exact .broken ht hp hr hz
  · intro h
    cases h with
    | overdue ht hp hr => rw [attempt_of_target? ht, if_neg hp, if_pos hr]
    | late ht hp hr hz hl =>
      rw [attempt_of_target? ht, if_neg hp, if_neg hr]
      exact lookUp_eq_halted_iff.2 (.inl ⟨_, hz, hl, rfl⟩)
    | unreadable ht hp hr hz hread =>
      rw [attempt_of_target? ht, if_neg hp, if_neg hr]
      exact lookUp_eq_halted_iff.2 (.inr (.inl ⟨_, _, hz, hread, rfl⟩))
    | broken ht hp hr hz =>
      rw [attempt_of_target? ht, if_neg hp, if_neg hr]
      exact lookUp_eq_halted_iff.2 (.inr (.inr ⟨_, hz, rfl⟩))

/-! ## The lookup of `attempt` -/

/-- The lookup that the evaluation of a term makes. -/
def Attempt.query? : Attempt τ → Option (Query τ)
  | .stepped s => s.query?
  | .halted e => e.query?

/-- A domain is looked up whatever comes of it. -/
theorem query?_lookUp (link : Link) (target : Text) :
    (lookUp z deadline now d link target).query? = some ⟨target, remaining deadline now⟩ := by
  unfold lookUp
  cases z.answer target with
  | texts texts =>
    simp only [openRecord]
    cases selectSpfRecords texts with
    | nil => rfl
    | cons raw others =>
      simp only
      cases Record.read raw target <;> rfl
  | timedOut m =>
    simp only
    split <;> rfl
  | _ => rfl

/-- A term is looked up if it refers to a domain whose record is not open and time is left. -/
theorem query?_attempt {link : Link} {target : Text} (ht : d.term.target? = some (link, target))
    (hp : target ∉ d.path) (hr : ¬ remaining deadline now ≤ 0) :
    (attempt z deadline now d).query? = some ⟨target, remaining deadline now⟩ := by
  rw [attempt_of_target? ht, if_neg hp, if_neg hr, query?_lookUp]

end Timing

end SenderPolicy
