import SenderPolicy.Proofs.Chain.Course
import SenderPolicy.Proofs.Chain.Pending

/-!
# Evaluating in place

An evaluation in place comes to an end, and it finds, returns and asks what the walk over the open
records does (`Course.exists_last`). Its calls are the open records, with one task for the terms
that are left of each and one to close it (`Opened`). `Course.Stands` says that a moment of a course
is one of a walk, and every iteration of the walk leads the course to another such moment. What a
walk leaves all at once when it is halted is left one by one when the calls return.
-/

namespace SenderPolicy

/-! ## One more step -/

/-- What a walk found, with what it finds in one more step. -/
def Chain.afterStep {τ : Type} (c : Chain) : Step τ → Chain
  | .charged _ _ => { c with lookups := c.lookups + 1 }
  | .loop source _ target =>
    { c with lookups := c.lookups + 1, cycles := c.cycles ++ [(source, target)] }
  | .unusable link q depth kind message =>
    { c with
      lookups := c.lookups + 1
      nodes := c.nodes ++ [⟨q.domain, none, depth, link, message⟩]
      failures := c.failures ++ [⟨q.domain, kind, message⟩] }
  | .entered link q depth r =>
    { c with
      lookups := c.lookups + 1
      nodes := c.nodes ++ [⟨q.domain, r, depth, link, none⟩]
      failures := c.failures ++
        (r.diagnostic.map fun d => ⟨q.domain, .invalid, d.message⟩ : Option Failure).toList }

/-- A step adds to what a walk found. -/
theorem Walk.chain_snoc {τ : Type} (steps : List (Step τ)) (s : Step τ) (records : List Text)
    (root : Record) : (Walk.mk (steps ++ [s]) .completed).chain records root =
      ((Walk.mk steps .completed).chain records root).afterStep s := by
  have hone {α : Type} (f : Step τ → Option α) : [s].filterMap f = (f s).toList := by
    rw [List.filterMap_cons, List.filterMap_nil]
    cases f s <;> rfl
  simp only [chain, nodesFrom, nodes, cycles, failures, charged, List.filterMap_append, hone,
    List.length_append]
  cases s <;>
    simp only [Step.node?, Step.cycle?, Step.failure?, Option.toList_none, List.append_nil] <;> rfl

/-! ## Open records and calls -/

/-- The tasks and the path that belong to open records. The root has a task of its own, and is on
the path in any case. -/
inductive Opened (root : Text) : List Frame → List Task → Finset Text → Prop
  /-- No record is open. -/
  | none : Opened root [] [] {root}
  /-- The record of the root is open. -/
  | root (left : List Term) : Opened root [⟨root, left⟩] [.terms root 0 left] {root}
  /-- Another record is opened. -/
  | inner {f : Frame} {outer : List Frame} {tasks : List Task} {path : Finset Text} (target : Text)
      (left : List Term) (hnew : target ∉ path) (h : Opened root (f :: outer) tasks path) :
      Opened root (⟨target, left⟩ :: f :: outer)
        (.terms target (outer.length + 1) left :: .exit target :: tasks) (insert target path)

namespace Opened

variable {root domain : Text} {left : List Term} {f : Frame} {outer frames : List Frame}
  {tasks : List Task} {path : Finset Text}

/-- If no record is open, nothing is left to be done. -/
theorem tasks_eq_nil (h : Opened root [] tasks path) : tasks = [] := by
  cases h
  rfl

/-- The innermost task is to go through the innermost record, whatever is left of it. -/
theorem exists_rest (h : Opened root (⟨domain, left⟩ :: outer) tasks path) : ∃ rest,
    tasks = .terms domain outer.length left :: rest ∧
      (∀ left', Opened root (⟨domain, left'⟩ :: outer)
        (.terms domain outer.length left' :: rest) path) ∧
      (Opened root outer rest path ∨
        ∃ tasks', rest = .exit domain :: tasks' ∧
          Opened root outer tasks' (path.erase domain)) := by
  cases h with
  | root => exact ⟨[], rfl, fun left' => .root left', .inl .none⟩
  | @inner f outer tasks path _ _ hnew h =>
    refine ⟨_, rfl, fun left' => .inner domain left' hnew h, .inr ⟨tasks, rfl, ?_⟩⟩
    rwa [Finset.erase_insert hnew]

/-- The path holds the domains of the open records. -/
theorem mem_path_iff (h : Opened root (f :: outer) tasks path) {name : Text} :
    name ∈ path ↔ name ∈ (f :: outer).map Frame.domain := by
  induction outer generalizing f tasks path with
  | nil =>
    cases h with
    | root => simp
  | cons g outer ih =>
    cases h with
    | inner target left hnew h => simp only [Finset.mem_insert, ih h, List.map_cons, List.mem_cons]

end Opened

namespace Course

section Timing

variable {τ : Type} [Seconds τ]

/-! ## Later moments -/

/-- A moment is reached from another one. -/
def Reaches (z : Zone τ) (limit : Int) (deadline : τ) (c c' : Course τ) : Prop :=
  ∃ n, c.moment z limit deadline n = c'

variable {z : Zone τ} {limit : Int} {deadline now : τ} {c c' c'' : Course τ}

/-- A moment is reached from itself. -/
theorem Reaches.refl (c : Course τ) : Reaches z limit deadline c c := ⟨0, rfl⟩

/-- The next moment is reached, and what is reached from it. -/
theorem Reaches.head (hnext : c.next z limit deadline = c') (h : Reaches z limit deadline c' c'') :
    Reaches z limit deadline c c'' := by
  obtain ⟨n, hn⟩ := h
  refine ⟨n + 1, ?_⟩
  rw [moment_succ, hnext, hn]

/-- What is reached from a moment that is reached is reached. -/
theorem Reaches.trans (h : Reaches z limit deadline c c') (h' : Reaches z limit deadline c' c'') :
    Reaches z limit deadline c c'' := by
  obtain ⟨n, rfl⟩ := h
  obtain ⟨m, rfl⟩ := h'
  exact ⟨n + m, moment_add n m⟩

/-! ## Calls that return -/

/-- A call that is halted leaves its terms and returns. -/
theorem reaches_of_halted {source : Text} {depth : Nat} {left : List Term} {rest : List Task}
    (htasks : c.tasks = .terms source depth left :: rest) (hc : c.halted = true)
    (ha : c.abort = none) :
    Reaches z limit deadline c
      { c with
        chain := { c.chain with unresolved := c.chain.unresolved ++ left.map (source, ·) }
        tasks := rest } := by
  induction left generalizing c with
  | nil =>
    refine .head ?_ (.refl _)
    simp [next, htasks]
  | cons t left ih =>
    have hnext : c.next z limit deadline =
        { c with
          toProgress := c.toProgress.leave source t
          tasks := .terms source depth left :: rest } := by
      simp only [next, htasks, ha, Option.isSome_none, Bool.false_eq_true, if_false, evaluate, hc,
        if_true]
    refine .head hnext ?_
    have hleft := ih (c := { c with
      toProgress := c.toProgress.leave source t, tasks := .terms source depth left :: rest })
      rfl hc ha
    simpa [Progress.leave] using hleft

/-- The calls of open records that are halted leave the terms of their records, the innermost
first. -/
theorem exists_reaches_of_halted {root : Text} {frames : List Frame} {tasks : List Task}
    {path : Finset Text} (h : Opened root frames tasks path) (htasks : c.tasks = tasks)
    (hc : c.halted = true) (ha : c.abort = none) : ∃ last,
      Reaches z limit deadline c last ∧ last.tasks = [] ∧ last.abort = none ∧
        last.asked = c.asked ∧
        last.chain = { c.chain with
          unresolved :=
            c.chain.unresolved ++ frames.flatMap fun f => f.pending.map (f.domain, ·) } := by
  induction h generalizing c with
  | none => exact ⟨c, .refl c, htasks, ha, rfl, by simp⟩
  | root left => exact ⟨_, reaches_of_halted htasks hc ha, rfl, ha, rfl, by simp⟩
  | @inner f outer tasks path target left hnew h ih =>
    -- The innermost call returns and its record is closed; then the others return.
    obtain ⟨last, hreaches, hlast, habort, hasked, hchain⟩ := ih (c := { c with
      chain := { c.chain with unresolved := c.chain.unresolved ++ left.map (target, ·) }
      path := c.path.erase target
      tasks := tasks }) rfl hc ha
    refine ⟨last, (reaches_of_halted htasks hc ha).trans (.head rfl hreaches), hlast, habort,
      hasked, ?_⟩
    simp only [hchain, List.flatMap_cons, List.append_assoc]

/-- The calls of open records that are aborted return. -/
theorem exists_reaches_of_aborted {root : Text} {frames : List Frame} {tasks : List Task}
    {path : Finset Text} (h : Opened root frames tasks path) (htasks : c.tasks = tasks)
    {a : Abort} (ha : c.abort = some a) : ∃ last,
      Reaches z limit deadline c last ∧ last.tasks = [] ∧ last.abort = some a ∧
        last.asked = c.asked := by
  -- A call does not look at what is left of its terms.
  have hreturn {c : Course τ} {source : Text} {depth : Nat} {left : List Term} {rest : List Task}
      (htasks : c.tasks = .terms source depth left :: rest) (ha : c.abort = some a) :
      c.next z limit deadline = { c with tasks := rest } := by
    cases left <;> simp [next, htasks, ha]
  induction h generalizing c with
  | none => exact ⟨c, .refl c, htasks, ha, rfl⟩
  | root left => exact ⟨_, .head (hreturn htasks ha) (.refl _), rfl, ha, rfl⟩
  | @inner f outer tasks path target left hnew h ih =>
    obtain ⟨last, hreaches, hlast, habort, hasked⟩ :=
      ih (c := { c with path := c.path.erase target, tasks := tasks }) rfl ha
    exact ⟨last, .head (hreturn htasks ha) (.head rfl hreaches), hlast, habort, hasked⟩

/-! ## Moments of a walk -/

/-- A moment of a course is the one at which a walk through the record of a domain has taken some
steps, and has still to go through some records. -/
structure Stands (c : Course τ) (records : List Text) (root : Record) (steps : List (Step τ))
    (now : τ) (frames : List Frame) : Prop where
  /-- The chain is what the walk found. -/
  chain : c.chain = (Walk.mk steps .completed).chain records root
  /-- The evaluation is not halted. -/
  halted : c.halted = false
  /-- The time is that of the walk. -/
  now : c.now = now
  /-- The lookups are those of the walk. -/
  asked : c.asked = steps.filterMap Step.query?
  /-- The evaluation is not aborted. -/
  abort : c.abort = none
  /-- The calls are those of the open records. -/
  opened : Opened root.domain frames c.tasks c.path

variable {records : List Text} {root : Record} {steps : List (Step τ)} {d : Due}
  {frames : List Frame}

omit [Seconds τ] in
/-- The first moment is the one before the first step. -/
theorem stands_start (now : τ) (records : List Text) (root : Record) :
    (start now records root).Stands records root [] now [⟨root.domain, root.terms⟩] :=
  ⟨rfl, rfl, rfl, rfl, rfl, .root root.terms⟩

/-- A course comes to a moment of a walk. -/
def Comes (z : Zone τ) (limit : Int) (deadline : τ) (c : Course τ) (records : List Text)
    (root : Record) (steps : List (Step τ)) (now : τ) (frames : List Frame) : Prop :=
  ∃ c', Reaches z limit deadline c c' ∧ c'.Stands records root steps now frames

/-- The call that goes through a record without terms returns. -/
theorem Comes.close {domain : Text} {outer : List Frame}
    (h : c.Comes z limit deadline records root steps now (⟨domain, []⟩ :: outer)) :
    c.Comes z limit deadline records root steps now outer := by
  obtain ⟨c', hreaches, hc⟩ := h
  obtain ⟨rest, htasks, -, hopened | ⟨tasks, rfl, hopened⟩⟩ := hc.opened.exists_rest
  · refine ⟨{ c' with tasks := rest }, hreaches.trans (.head ?_ (.refl _)),
      { hc with opened := hopened }⟩
    simp only [next, htasks]
  · -- The record was opened for a reference, and is closed.
    have hnext : c'.next z limit deadline = { c' with tasks := .exit domain :: tasks } := by
      simp only [next, htasks]
    exact ⟨{ c' with path := c'.path.erase domain, tasks },
      hreaches.trans (.head hnext (.head rfl (.refl _))), { hc with opened := hopened }⟩

/-- A term that is charged nothing is passed over. -/
theorem Comes.skip {domain : Text} {t : Term} {terms : List Term} {outer : List Frame}
    (ht : t.isChargeable = false)
    (h : c.Comes z limit deadline records root steps now (⟨domain, t :: terms⟩ :: outer)) :
    c.Comes z limit deadline records root steps now (⟨domain, terms⟩ :: outer) := by
  obtain ⟨c', hreaches, hc⟩ := h
  obtain ⟨rest, htasks, hopened, -⟩ := hc.opened.exists_rest
  have hcharge : t.charge = 0 := by rw [t.charge_eq, ht]; rfl
  refine ⟨{ c' with tasks := .terms domain outer.length terms :: rest },
    hreaches.trans (.head ?_ (.refl _)), { hc with opened := hopened terms }⟩
  simp only [next, htasks, hc.abort, Option.isSome_none, Bool.false_eq_true, if_false, evaluate,
    hc.halted, hcharge, if_true]

/-- A course comes to the term that is due. -/
theorem Comes.due (hd : Due.next? frames = some d)
    (h : c.Comes z limit deadline records root steps now frames) :
    c.Comes z limit deadline records root steps now d.frames :=
  Due.of_next? (fun _ _ => close) (fun _ _ _ _ => skip) hd h

/-- A course comes to its end if no term is due. -/
theorem Comes.done (hd : Due.next? frames = none)
    (h : c.Comes z limit deadline records root steps now frames) :
    c.Comes z limit deadline records root steps now [] :=
  Due.of_next?_eq_none (fun _ _ => close) (fun _ _ _ _ => skip) hd h

/-! ## Steps of a walk -/

/-- The moment at which a lookup is charged. -/
def charged (c : Course τ) : Course τ := { c with toProgress := c.toProgress.charge }

/-- What a term leads to once it is charged within the limit. -/
theorem reaches_follow {source : Text} {depth : Nat} {t : Term} {later : List Term}
    {rest : List Task} (htasks : c.tasks = .terms source depth (t :: later) :: rest)
    (hc : c.halted = false) (ha : c.abort = none) (ht : t.charge = 1)
    (hlimit : c.chain.lookups + 1 ≤ limit) :
    Reaches z limit deadline c
      ({ c with tasks := .terms source depth later :: rest }.charged.follow z deadline source
        (depth + 1) t) := by
  have hne : t.charge ≠ 0 := ht ▸ Nat.one_ne_zero
  have hle : ¬ limit < c.toProgress.charge.chain.lookups := Int.not_lt.2 hlimit
  cases hl : t.link?.isSome with
  | true =>
    -- One moment charges the term, and the next one follows it.
    have hnext : c.next z limit deadline =
        { c with
          toProgress := c.toProgress.charge
          tasks := .follow source (depth + 1) t :: .terms source depth later :: rest } := by
      simp only [next, htasks, ha, Option.isSome_none, Bool.false_eq_true, if_false, evaluate, hc,
        hne, hle, hl, if_true]
    exact .head hnext (.head rfl (.refl _))
  | false =>
    have hnone : t.link? = none := Option.isNone_iff_eq_none.1 (Option.isSome_eq_false_iff.1 hl)
    have htarget : t.target? = none := by rw [Term.target?, hnone]; rfl
    refine .head ?_ (.refl _)
    simp only [next, htasks, ha, Option.isSome_none, Bool.false_eq_true, if_false, evaluate, hc,
      hne, hle, hl, charged, follow, htarget]

/-- Nothing is done for a term that refers to no domain. -/
theorem follow_of_target?_eq_none (c : Course τ) {source : Text} {depth : Nat} {t : Term}
    (ht : t.target? = none) : c.follow z deadline source depth t = c := by
  simp only [follow, ht]

/-- A loop is noted for a term that leads back to an open record. -/
theorem follow_of_mem_path (c : Course τ) {source target : Text} {depth : Nat} {t : Term}
    {link : Link} (ht : t.target? = some (link, target)) (hp : target ∈ c.path) :
    c.follow z deadline source depth t =
      { c with toProgress := c.toProgress.loop source target } := by
  simp only [follow, ht, hp, if_true]

/-- The evaluation is halted at a term for which no time is left. -/
theorem follow_of_remaining_le (c : Course τ) {source target : Text} {depth : Nat} {t : Term}
    {link : Link} (ht : t.target? = some (link, target)) (hp : target ∉ c.path)
    (hr : remaining deadline c.now ≤ 0) :
    c.follow z deadline source depth t = { c with toProgress := c.toProgress.expire source t } := by
  simp only [follow, ht, hp, if_false, hr, if_true]

/-- The domain of any other term is looked up. -/
theorem follow_of_notMem_path (c : Course τ) {source target : Text} {depth : Nat} {t : Term}
    {link : Link} (ht : t.target? = some (link, target)) (hp : target ∉ c.path)
    (hr : ¬ remaining deadline c.now ≤ 0) :
    c.follow z deadline source depth t = (c.ask z deadline target).receive deadline source t link
      target depth (z.answer target) := by
  simp only [follow, ht, hp, if_false, hr]

/-- A domain that is refused has no record. -/
theorem receive_of_refusal? {source target m : Text} {t : Term} {link : Link} {depth : Nat}
    {kind : FailureKind} (hz : z.refusal? target = some (kind, m))
    (hl : z.answer target = .timedOut m → ¬ remaining deadline c.now ≤ 0) :
    c.receive deadline source t link target depth (z.answer target) =
      c.refuse link target depth kind m := by
  unfold Zone.refusal? at hz
  unfold receive
  cases ha : z.answer target with
  | texts texts =>
    cases hs : selectSpfRecords texts with
    | nil =>
      obtain ⟨rfl, rfl⟩ : .missing = kind ∧ noRecordMessage target = m := by
        simpa [ha, hs] using hz
      simp only [hs]
    | cons raw others => simp [ha, hs] at hz
  | timedOut m' =>
    simp only [ha, Option.some.injEq, Prod.mk.injEq] at hz
    obtain ⟨rfl, rfl⟩ := hz
    exact if_neg (hl ha)
  | notFound m' | failed m' =>
    simp only [ha, Option.some.injEq, Prod.mk.injEq] at hz
    obtain ⟨rfl, rfl⟩ := hz
    rfl
  | broken m' => simp [ha] at hz

/-- The evaluation is halted at a term whose answer comes too late. -/
theorem receive_of_late (c : Course τ) (hl : remaining deadline c.now ≤ 0) {source target m : Text}
    {t : Term} {link : Link} {depth : Nat} :
    c.receive deadline source t link target depth (.timedOut m) =
      { c with toProgress := c.toProgress.expire source t } := if_pos hl

/-- What comes of a domain that publishes a record is a matter of whether it can be read. -/
theorem receive_of_published? {source target raw : Text} {t : Term} {link : Link} {depth : Nat}
    (hz : z.published? target = some raw) :
    c.receive deadline source t link target depth (z.answer target) =
      c.meetRecord link target depth (Record.read raw target) := by
  unfold Zone.published? at hz
  unfold receive
  cases ha : z.answer target with
  | texts texts =>
    cases hs : selectSpfRecords texts with
    | nil => simp [ha, hs] at hz
    | cons raw' others =>
      obtain rfl : raw' = raw := by simpa [ha, hs] using hz
      simp only [hs]
  | _ => simp [ha] at hz

/-- A moment at which the term that is due is charged leads to the next moment of the walk. -/
theorem Stands.follow {s : Step τ} (hs : d.Steps z deadline now s)
    (h : c.Stands records root steps now d.rest) :
    (c.charged.follow z deadline d.source d.depth d.term).Stands records root (steps ++ [s])
      (s.doneAt z now) (s.opened ++ d.rest) := by
  obtain rfl := h.now
  -- The two look for the target in the same records.
  have hpath (name : Text) : name ∈ c.charged.path ↔ name ∈ d.path := h.opened.mem_path_iff
  have hchain : c.chain.afterStep s = (Walk.mk (steps ++ [s]) .completed).chain records root := by
    rw [Walk.chain_snoc, h.chain]
  have hasked : c.asked ++ s.query?.toList = (steps ++ [s]).filterMap Step.query? := by
    rw [h.asked, List.filterMap_append]
    cases s <;> rfl
  cases hs with
  | charged ht =>
    rw [follow_of_target?_eq_none c.charged ht]
    exact ⟨hchain, h.halted, rfl, (List.append_nil _).symm.trans hasked, h.abort, h.opened⟩
  | loop ht hp =>
    rw [follow_of_mem_path c.charged ht ((hpath _).2 hp)]
    exact ⟨hchain, h.halted, rfl, (List.append_nil _).symm.trans hasked, h.abort, h.opened⟩
  | unusable ht hp hr hz hl =>
    rw [follow_of_notMem_path c.charged ht (mt (hpath _).1 hp) hr, receive_of_refusal? hz hl]
    exact ⟨hchain, h.halted, rfl, hasked, h.abort, h.opened⟩
  | entered ht hp hr hz hread =>
    rw [follow_of_notMem_path c.charged ht (mt (hpath _).1 hp) hr, receive_of_published? hz, hread]
    exact ⟨hchain, h.halted, rfl, hasked, h.abort, .inner _ _ (mt (hpath _).1 hp) h.opened⟩

/-- What a walk does with the term that is due is done in place. -/
theorem Comes.step {s : Step τ} (hs : d.Steps z deadline now s) (ht : d.term.charge = 1)
    (hlimit : (steps.length : Int) + 1 ≤ limit)
    (h : c.Comes z limit deadline records root steps now d.frames) :
    c.Comes z limit deadline records root (steps ++ [s]) (s.doneAt z now) (s.opened ++ d.rest) := by
  obtain ⟨c', hreaches, hc⟩ := h
  obtain ⟨rest, htasks, hopened, -⟩ := hc.opened.exists_rest
  have hlookups : c'.chain.lookups + 1 ≤ limit := by rw [hc.chain]; exact hlimit
  have hrest : { c' with tasks := .terms d.source d.outer.length d.later :: rest }.Stands
    records root steps now d.rest := { hc with opened := hopened d.later }
  exact ⟨_, hreaches.trans (reaches_follow htasks hc.halted hc.abort ht hlookups), hrest.follow hs⟩

/-! ## The end of a walk -/

/-- A course comes to an end at which it has found, returned and asked what a walk did. -/
def Ends (z : Zone τ) (limit : Int) (deadline : τ) (c : Course τ) (records : List Text)
    (root : Record) (w : Walk τ) : Prop :=
  ∃ last, Reaches z limit deadline c last ∧ last.tasks = [] ∧
    last.outcome = w.outcome records root ∧ last.asked = w.queries

/-- A course that comes to the end of a walk without open records ends there. -/
theorem Comes.ends (h : c.Comes z limit deadline records root steps now []) :
    c.Ends z limit deadline records root ⟨steps, .completed⟩ := by
  obtain ⟨last, hreaches, hlast⟩ := h
  refine ⟨last, hreaches, hlast.opened.tasks_eq_nil, ?_, ?_⟩
  · rw [outcome, hlast.abort, hlast.chain]
    rfl
  · rw [hlast.asked, Walk.queries]
    exact (List.append_nil _).symm

/-- A course that is halted where a walk is ends as the walk does. -/
theorem ends_of_halted {e : Ending τ} (hreaches : Reaches z limit deadline c c')
    (hc : c'.halted = true) (ha : c'.abort = none)
    (hopened : Opened root.domain frames c'.tasks c'.path)
    (hchain : { c'.chain with
      unresolved := c'.chain.unresolved ++ frames.flatMap fun f => f.pending.map (f.domain, ·) } =
        (Walk.mk steps e).chain records root)
    (he : e.abort? = none) (hasked : c'.asked = (Walk.mk steps e).queries) :
    c.Ends z limit deadline records root ⟨steps, e⟩ := by
  obtain ⟨last, hlast, htasks, habort, hasked', hchain'⟩ :=
    exists_reaches_of_halted hopened rfl hc ha
  refine ⟨last, hreaches.trans hlast, htasks, ?_, hasked'.trans hasked⟩
  rw [outcome, habort, hchain', hchain, eq_comm, Walk.outcome_eq_ok_iff]
  exact ⟨he, rfl⟩

/-- A course that is aborted where a walk is ends as the walk does. -/
theorem ends_of_aborted {q : Query τ} {a : Abort} (hreaches : Reaches z limit deadline c c')
    (ha : c'.abort = some a) (hopened : Opened root.domain frames c'.tasks c'.path)
    (hasked : c'.asked = (Walk.mk steps (.aborted q a)).queries) :
    c.Ends z limit deadline records root ⟨steps, .aborted q a⟩ := by
  obtain ⟨last, hlast, htasks, habort, hasked'⟩ := exists_reaches_of_aborted hopened rfl ha
  refine ⟨last, hreaches.trans hlast, htasks, ?_, hasked'.trans hasked⟩
  rw [outcome, habort]
  rfl

/-- A course that comes to a term over the budget of a walk ends there as the walk does. -/
theorem Comes.overBudget (ht : d.term.charge = 1) (hlimit : limit ≤ steps.length)
    (h : c.Comes z limit deadline records root steps now d.frames) :
    c.Ends z limit deadline records root ⟨steps, .overBudget d.unresolved⟩ := by
  obtain ⟨c', hreaches, hc⟩ := h
  obtain ⟨rest, htasks, hopened, -⟩ := hc.opened.exists_rest
  have hne : d.term.charge ≠ 0 := ht ▸ Nat.one_ne_zero
  -- Every step was charged one lookup, so the next one is beyond the limit.
  have hlt : limit < c'.toProgress.charge.chain.lookups := by
    show limit < c'.chain.lookups + 1
    rw [hc.chain]
    exact Int.lt_add_one_iff.2 hlimit
  have hnext : c'.next z limit deadline =
      { c' with
        toProgress := c'.toProgress.charge.exceed d.source d.term
        tasks := .terms d.source d.outer.length d.later :: rest } := by
    simp only [next, htasks, hc.abort, Option.isSome_none, Bool.false_eq_true, if_false, evaluate,
      hc.halted, hne, hlt, if_true]
  refine ends_of_halted (hreaches.trans (.head hnext (.refl _))) rfl hc.abort (hopened d.later) ?_
    rfl ?_
  · simp only [Progress.exceed, Progress.leave, Progress.charge, hc.chain]
    rfl
  · exact hc.asked.trans (List.append_nil _).symm

/-- A course that comes to a term that ends a walk ends there as the walk does. -/
theorem Comes.halts {e : Ending τ} (he : d.Halts z deadline now e) (ht : d.term.charge = 1)
    (hlimit : (steps.length : Int) + 1 ≤ limit)
    (h : c.Comes z limit deadline records root steps now d.frames) :
    c.Ends z limit deadline records root ⟨steps, e⟩ := by
  obtain ⟨c', hreaches, hc⟩ := h
  obtain ⟨rest, htasks, hopened, -⟩ := hc.opened.exists_rest
  obtain rfl := hc.now
  have hlookups : c'.chain.lookups + 1 ≤ limit := by rw [hc.chain]; exact hlimit
  -- The moment at which the term is charged, from which it is followed.
  let m := { c' with tasks := .terms d.source d.outer.length d.later :: rest }.charged
  have hm : Reaches z limit deadline c (m.follow z deadline d.source d.depth d.term) :=
    hreaches.trans (reaches_follow htasks hc.halted hc.abort ht hlookups)
  have hrest : Opened root.domain d.rest m.tasks m.path := hopened d.later
  have hpath {name : Text} (hp : name ∉ d.path) : name ∉ m.path := mt hrest.mem_path_iff.1 hp
  have hexpired (q : Option (Query τ)) :
      { (m.toProgress.expire d.source d.term).chain with
        unresolved := (m.toProgress.expire d.source d.term).chain.unresolved ++
          d.rest.flatMap fun f => f.pending.map (f.domain, ·) } =
      (Walk.mk steps (.outOfTime q d.unresolved)).chain records root := by
    simp only [m, charged, Progress.expire, Progress.leave, Progress.charge, hc.chain]
    rfl
  cases he with
  | overdue htarget hp hr =>
    rw [follow_of_remaining_le m htarget (hpath hp) hr] at hm
    exact ends_of_halted hm rfl hc.abort hrest (hexpired none) rfl
      (hc.asked.trans (List.append_nil _).symm)
  | late htarget hp hr hz hl =>
    rw [follow_of_notMem_path m htarget (hpath hp) hr, hz, receive_of_late (m.ask z deadline _) hl]
      at hm
    exact ends_of_halted hm rfl hc.abort hrest (hexpired _) rfl (congrArg (· ++ [_]) hc.asked)
  | unreadable htarget hp hr hz hread =>
    rw [follow_of_notMem_path m htarget (hpath hp) hr, receive_of_published? hz, hread] at hm
    exact ends_of_aborted hm rfl hrest (congrArg (· ++ [_]) hc.asked)
  | broken htarget hp hr hz =>
    rw [follow_of_notMem_path m htarget (hpath hp) hr, hz] at hm
    exact ends_of_aborted hm rfl hrest (congrArg (· ++ [_]) hc.asked)

/-- A course that comes to a moment of a walk ends as the rest of the walk does. -/
theorem Comes.ends_walk (budget : Nat) (hlimit : steps.length + budget = limit.toNat)
    (h : c.Comes z limit deadline records root steps now frames) :
    c.Ends z limit deadline records root
      ⟨steps ++ (walk z deadline budget now frames).steps,
        (walk z deadline budget now frames).ending⟩ := by
  -- Along the walk, the steps that were taken and the lookups that are left make up the limit.
  fun_induction walk z deadline budget now frames generalizing steps with
  | case1 now frames hd | case3 budget now frames hd =>
    rw [List.append_nil]
    exact (h.done hd).ends
  | case2 now frames d hd =>
    rw [List.append_nil]
    exact (h.due hd).overBudget (Due.charge_of_next? hd) (by omega)
  | case4 budget now frames d hd e he =>
    rw [List.append_nil]
    exact (h.due hd).halts (attempt_eq_halted_iff.1 he) (Due.charge_of_next? hd) (by omega)
  | case5 budget now frames d hd s hs w =>
    rename_i ih
    have hstep := (h.due hd).step (attempt_eq_stepped_iff.1 hs) (Due.charge_of_next? hd) (by omega)
    have hends := ih (by rw [List.length_append, List.length_singleton]; omega) hstep
    rwa [List.append_assoc] at hends

/-- The evaluation of a root record comes to an end, and it returns and asks what its expansion by a
walk does. -/
theorem exists_last (z : Zone τ) (l : Limits τ) (deadline now : τ) (records : List Text)
    {domain raw : Text} {root : Record} (hread : Record.read raw domain = .ok root) : ∃ n,
    let last := (start now records root).moment z l.lookups.most deadline n
    last.tasks = [] ∧
      last.outcome = (Chain.evaluate z l deadline now domain records raw).outcome ∧
      last.asked = (Chain.evaluate z l deadline now domain records raw).queries := by
  -- At the start no step was taken, and all lookups are left.
  have hstart : (start now records root).Comes z l.lookups.most deadline records root [] now
    [⟨root.domain, root.terms⟩] := ⟨_, .refl _, stands_start now records root⟩
  obtain ⟨last, ⟨n, hn⟩, htasks, houtcome, hasked⟩ :=
    hstart.ends_walk l.lookups.most.toNat (Nat.zero_add _)
  subst hn
  rw [Record.domain_of_read hread] at houtcome hasked
  refine ⟨n, htasks, ?_, ?_⟩
  · rw [houtcome, Chain.evaluate, hread]
    rfl
  · rw [hasked, Chain.queries_evaluate hread]
    rfl

end Timing

end Course

end SenderPolicy
