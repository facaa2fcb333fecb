import SenderPolicy.Proofs.Chain.InPlace

/-!
# What the calls of an evaluation keep

An evaluation in place only adds to what it found (`Progress.LeadsTo`), and once it is halted it
only leaves terms. Every call returns, and the path is then what it was before, even if the call was
halted or aborted (`Progress.ReturnsAs`). `calls_keep_frame` says so of every expansion of a record.

All of this is proved of one moment and the next one. What a call can do with a term is listed by
`Course.Evaluates` and `Course.Follows`, so `Course.next` is taken apart only once. That nothing is
followed after a halt is an invariant of the moments of a course (`Course.Sound`), and so is, up to
the return of a call, the path that there will be after it (`Course.pathAfter`).
-/

namespace SenderPolicy

/-! ## What is only added to -/

/-- A chain becomes another one in which no more than was found is changed. -/
structure Chain.GrowsTo (c c' : Chain) : Prop where
  /-- The domain under evaluation stays. -/
  domain : c'.domain = c.domain
  /-- The record of the domain stays. -/
  root : c'.root = c.root
  /-- The SPF records of the domain stay. -/
  spfRecords : c'.spfRecords = c.spfRecords
  /-- The reason why there are none stays. -/
  rootError : c'.rootError = c.rootError
  /-- The lookups charged become no fewer. -/
  lookups : c.lookups ≤ c'.lookups
  /-- Domains are only added. -/
  nodes : c.nodes <+: c'.nodes
  /-- Loops are only added. -/
  cycles : c.cycles <+: c'.cycles
  /-- Domains without a usable record are only added. -/
  failures : c.failures <+: c'.failures
  /-- Terms that are left are only added. -/
  unresolved : c.unresolved <+: c'.unresolved
  /-- A limit that was exceeded stays so. -/
  limitExceeded : c.limitExceeded = true → c'.limitExceeded = true
  /-- A time that was used up stays so. -/
  timedOut : c.timedOut = true → c'.timedOut = true

namespace Chain.GrowsTo

/-- Nothing may be added. -/
theorem refl (c : Chain) : c.GrowsTo c :=
  ⟨rfl, rfl, rfl, rfl, Int.le_refl _, List.prefix_rfl, List.prefix_rfl, List.prefix_rfl,
    List.prefix_rfl, id, id⟩

/-- More may be added. -/
theorem trans {c c' c'' : Chain} (h : c.GrowsTo c') (h' : c'.GrowsTo c'') : c.GrowsTo c'' where
  domain := h'.domain.trans h.domain
  root := h'.root.trans h.root
  spfRecords := h'.spfRecords.trans h.spfRecords
  rootError := h'.rootError.trans h.rootError
  lookups := Int.le_trans h.lookups h'.lookups
  nodes := h.nodes.trans h'.nodes
  cycles := h.cycles.trans h'.cycles
  failures := h.failures.trans h'.failures
  unresolved := h.unresolved.trans h'.unresolved
  limitExceeded := h'.limitExceeded ∘ h.limitExceeded
  timedOut := h'.timedOut ∘ h.timedOut

end Chain.GrowsTo

/-- What is kept in place at one moment and at a later one. -/
structure Progress.LeadsTo (p q : Progress) : Prop where
  /-- What was found is only added to. -/
  grows : p.chain.GrowsTo q.chain
  /-- An evaluation that was halted stays so. -/
  halted : p.halted = true → q.halted = true
  /-- Once it is halted, nothing is found any more, and terms are only left. -/
  frozen : p.halted = true → q.chain = { p.chain with unresolved := q.chain.unresolved }
  /-- Once it is halted, records are only closed. -/
  closing : p.halted = true → q.path ⊆ p.path

/-- What is kept in place when a call begins and when it returns. -/
structure Progress.ReturnsAs (p q : Progress) : Prop extends p.LeadsTo q where
  /-- The path is what it was. -/
  path : q.path = p.path
  /-- If the evaluation was halted before the call, nothing but the terms that are left changed. -/
  left : p.halted = true → q = { p with chain := { p.chain with unresolved := q.chain.unresolved } }

namespace Progress

namespace LeadsTo

/-- Nothing may happen. -/
theorem refl (p : Progress) : p.LeadsTo p := ⟨.refl _, id, fun _ => rfl, fun _ => Finset.Subset.rfl⟩

/-- A moment may be later than a later one. -/
theorem trans {p q r : Progress} (h : p.LeadsTo q) (h' : q.LeadsTo r) : p.LeadsTo r where
  grows := h.grows.trans h'.grows
  halted := h'.halted ∘ h.halted
  frozen hp := by rw [h'.frozen (h.halted hp), h.frozen hp]
  closing hp := (h'.closing (h.halted hp)).trans (h.closing hp)

/-- Anything may be added as long as the evaluation was not halted. -/
theorem of_running {p q : Progress} (hp : p.halted = false) (h : p.chain.GrowsTo q.chain) :
    p.LeadsTo q where
  grows := h
  halted ht := absurd (hp.symm.trans ht) Bool.false_ne_true
  frozen ht := absurd (hp.symm.trans ht) Bool.false_ne_true
  closing ht := absurd (hp.symm.trans ht) Bool.false_ne_true

/-- A call may return once the path is what it was. -/
theorem returnsAs {p q : Progress} (h : p.LeadsTo q) (hpath : q.path = p.path) : p.ReturnsAs q where
  toLeadsTo := h
  path := hpath
  left hp := by
    obtain ⟨chain, path, halted⟩ := q
    rw [Progress.mk.injEq]
    exact ⟨h.frozen hp, hpath, (h.halted hp).trans hp.symm⟩

end LeadsTo

variable {p : Progress} (hp : p.halted = false)

/-- A term may be left at any time. -/
theorem leadsTo_leave (p : Progress) (source : Text) (t : Term) : p.LeadsTo (p.leave source t) :=
  { LeadsTo.refl p with
    grows := { Chain.GrowsTo.refl p.chain with unresolved := List.prefix_append _ _ }
    frozen := fun _ => rfl }

/-- A record may be closed at any time. -/
theorem leadsTo_exit (p : Progress) (target : Text) : p.LeadsTo (p.exit target) :=
  { LeadsTo.refl p with closing := fun _ => Finset.erase_subset _ _ }

include hp

/-- A lookup may be charged. -/
theorem leadsTo_charge : p.LeadsTo p.charge :=
  .of_running hp { Chain.GrowsTo.refl p.chain with
    lookups := Int.le_add_of_nonneg_right (by decide) }

/-- The evaluation may be halted at a charged term. -/
theorem leadsTo_exceed (source : Text) (t : Term) : p.LeadsTo (p.exceed source t) :=
  .of_running hp { (p.leadsTo_leave source t).grows with limitExceeded := fun _ => rfl }

/-- The evaluation may be halted at a term for which no time is left. -/
theorem leadsTo_expire (source : Text) (t : Term) : p.LeadsTo (p.expire source t) :=
  .of_running hp { (p.leadsTo_leave source t).grows with timedOut := fun _ => rfl }

/-- A loop may be noted. -/
theorem leadsTo_loop (source target : Text) : p.LeadsTo (p.loop source target) :=
  .of_running hp { Chain.GrowsTo.refl p.chain with cycles := List.prefix_append _ _ }

/-- A domain may be met. -/
theorem leadsTo_meet (n : Node) (failure : Option Failure) : p.LeadsTo (p.meet n failure) :=
  .of_running hp { Chain.GrowsTo.refl p.chain with
    nodes := List.prefix_append _ _
    failures := List.prefix_append _ _ }

end Progress

namespace Course

section Relations

variable {τ : Type} {c : Course τ}

/-! ## What a call does with a term -/

/-- What the evaluation of a term can lead to. -/
inductive Evaluates (c : Course τ) (source : Text) (t : Term) : Course τ → Prop
  /-- The term is left, since the evaluation was halted. -/
  | left (hc : c.halted = true) :
      Evaluates c source t { c with toProgress := c.toProgress.leave source t }
  /-- The term is passed over. -/
  | passed : Evaluates c source t c
  /-- The evaluation is halted at the term. -/
  | exceeded (hc : c.halted = false) :
      Evaluates c source t { c with toProgress := c.toProgress.charge.exceed source t }
  /-- The term is charged and nothing else. -/
  | charged (hc : c.halted = false) :
      Evaluates c source t { c with toProgress := c.toProgress.charge }
  /-- The term is charged, and will be followed. -/
  | called (hc : c.halted = false) (depth : Nat) : Evaluates c source t
      { c with toProgress := c.toProgress.charge, tasks := .follow source depth t :: c.tasks }

/-- The evaluation of a term leads to one of these. -/
theorem evaluates_evaluate (limit : Int) (source : Text) (depth : Nat) (t : Term) :
    c.Evaluates source t (c.evaluate limit source depth t) := by
  unfold evaluate
  split
  · rename_i hc
    exact .left hc
  · rename_i hc
    have hrunning : c.halted = false := Bool.eq_false_iff.2 hc
    split
    · exact .passed
    · split
      · exact .exceeded hrunning
      · split
        · exact .called hrunning _
        · exact .charged hrunning

/-- What following a term can lead to. -/
inductive Follows (c : Course τ) (source : Text) (t : Term) : Course τ → Prop
  /-- Nothing is done. -/
  | passed : Follows c source t c
  /-- The term leads back to an open record. -/
  | loop (target : Text) :
      Follows c source t { c with toProgress := c.toProgress.loop source target }
  /-- No time is left. -/
  | expired (now : τ) (asked : List (Query τ)) :
      Follows c source t { c with toProgress := c.toProgress.expire source t, now, asked }
  /-- A domain is met that has no record. -/
  | refused (n : Node) (failure : Failure) (now : τ) (asked : List (Query τ)) :
      Follows c source t { c with toProgress := c.toProgress.meet n failure, now, asked }
  /-- The evaluation is aborted. -/
  | aborted (a : Abort) (now : τ) (asked : List (Query τ)) :
      Follows c source t { c with now, asked, abort := some a }
  /-- A domain is met, and its record will be gone through. -/
  | visited (target : Text) (hp : target ∉ c.path) (n : Node) (failure : Option Failure)
      (depth : Nat) (terms : List Term) (now : τ) (asked : List (Query τ)) :
      Follows c source t
        { c with
          toProgress := (c.toProgress.meet n failure).enter target
          now
          asked
          tasks := .terms target depth terms :: .exit target :: c.tasks }

/-- What one moment of a course can lead to. -/
inductive Advances (c : Course τ) : Course τ → Prop
  /-- Nothing is left to be done. -/
  | finished (h : c.tasks = []) : Advances c c
  /-- A record is closed. -/
  | closed (target : Text) (rest : List Task) (h : c.tasks = .exit target :: rest) :
      Advances c { c with toProgress := c.toProgress.exit target, tasks := rest }
  /-- The call that goes through the terms of a record returns. -/
  | returned (source : Text) (depth : Nat) (left : List Term) (rest : List Task)
      (h : c.tasks = .terms source depth left :: rest) : Advances c { c with tasks := rest }
  /-- A term is evaluated. -/
  | evaluated (source : Text) (depth : Nat) (t : Term) (later : List Term) (rest : List Task)
      (e : Course τ) (h : c.tasks = .terms source depth (t :: later) :: rest)
      (he : { c with tasks := .terms source depth later :: rest }.Evaluates source t e) :
      Advances c e
  /-- A term is followed. -/
  | followed (source : Text) (depth : Nat) (t : Term) (rest : List Task) (e : Course τ)
      (h : c.tasks = .follow source depth t :: rest)
      (he : { c with tasks := rest }.Follows source t e) : Advances c e

/-! ## Invariants of a course -/

/-- What holds at every moment of a course. -/
structure Sound (c : Course τ) : Prop where
  /-- The evaluation is halted if and only if the limit was exceeded or the time used up. -/
  halted_iff : c.halted = true ↔ c.chain.limitExceeded = true ∨ c.chain.timedOut = true
  /-- No term is about to be followed once the evaluation is halted. -/
  running : ∀ source depth t rest, c.tasks = .follow source depth t :: rest → c.halted = false
  /-- Only the innermost call follows a term. -/
  innermost : ∀ source depth t, .follow source depth t ∉ c.tasks.tail

/-- A moment at which no term is about to be followed is sound if the flags agree. -/
theorem Sound.of_notMem
    (hc : c.halted = true ↔ c.chain.limitExceeded = true ∨ c.chain.timedOut = true)
    (h : ∀ source depth t, .follow source depth t ∉ c.tasks) : c.Sound where
  halted_iff := hc
  running source depth t rest htasks := by
    refine absurd ?_ (h source depth t)
    rw [htasks]
    exact List.mem_cons_self
  innermost source depth t hmem := h source depth t (List.mem_of_mem_tail hmem)

/-- The first moment is sound. -/
theorem sound_start (now : τ) (records : List Text) (root : Record) :
    (start now records root).Sound :=
  .of_notMem (by simp [start, Chain.ofDomain]) (by simp [start])

/-- The next moment is sound. -/
theorem Sound.advances {e : Course τ} (h : c.Sound) (he : c.Advances e) : e.Sound := by
  have hrest {task : Task} {rest : List Task} (htasks : c.tasks = task :: rest)
      (source : Text) (depth : Nat) (t : Term) : .follow source depth t ∉ rest := by
    have htail := h.innermost source depth t
    rwa [htasks] at htail
  -- The evaluation is halted in the same moment in which one of the two flags is set.
  have hexceeded : true = true ↔ true = true ∨ c.chain.timedOut = true := by simp
  have hexpired : true = true ↔ c.chain.limitExceeded = true ∨ true = true := by simp
  cases he with
  | finished => exact h
  | closed target rest htasks => exact .of_notMem h.halted_iff (hrest htasks)
  | returned source depth left rest htasks => exact .of_notMem h.halted_iff (hrest htasks)
  | evaluated source depth t later rest e htasks he =>
    have hterms : ∀ source' depth' t',
        Task.follow source' depth' t' ∉ .terms source depth later :: rest := by
      intro source' depth' t' hmem
      rcases List.mem_cons.1 hmem with hmem | hmem
      · cases hmem
      · exact hrest htasks _ _ _ hmem
    cases he with
    | left | passed | charged => exact .of_notMem h.halted_iff hterms
    | exceeded => exact .of_notMem hexceeded hterms
    | called hc =>
      exact ⟨h.halted_iff, fun _ _ _ _ _ => hc, hterms⟩
  | followed source depth t rest e htasks he =>
    cases he with
    | passed | loop | refused | aborted => exact .of_notMem h.halted_iff (hrest htasks)
    | expired => exact .of_notMem hexpired (hrest htasks)
    | visited target hp n failure depth' terms now asked =>
      refine .of_notMem h.halted_iff fun source' depth' t' hmem => ?_
      simp only [List.mem_cons, reduceCtorEq, false_or] at hmem
      exact hrest htasks _ _ _ hmem

/-- From a sound moment to the next one, things are only added. -/
theorem Advances.leadsTo {e : Course τ} (he : c.Advances e) (h : c.Sound) :
    c.toProgress.LeadsTo e.toProgress := by
  cases he with
  | finished | returned => exact .refl _
  | closed target => exact Progress.leadsTo_exit _ target
  | evaluated source depth t later rest e htasks he =>
    cases he with
    | left => exact Progress.leadsTo_leave _ source t
    | passed => exact .refl _
    | exceeded hc =>
      exact (Progress.leadsTo_charge hc).trans (Progress.leadsTo_exceed (p := c.charge) hc source t)
    | charged hc | called hc => exact Progress.leadsTo_charge hc
  | followed source depth t rest e htasks he =>
    -- A term is followed only before the halt.
    have hc := h.running _ _ _ _ htasks
    cases he with
    | passed | aborted => exact .refl _
    | loop target => exact Progress.leadsTo_loop hc source target
    | expired => exact Progress.leadsTo_expire hc source t
    | refused n failure => exact Progress.leadsTo_meet hc n failure
    | visited target hp n failure => exact .of_running hc (Progress.leadsTo_meet hc n failure).grows

/-! ## The path after a call -/

/-- The path when tasks are done. -/
def pathAfter : (path : Finset Text) → List Task → Finset Text
  | path, [] => path
  | path, .exit target :: tasks => pathAfter (path.erase target) tasks
  | path, _ :: tasks => pathAfter path tasks

/-- From one moment to the next, the path that there will be when the innermost calls are done stays
the same, whatever calls `below` are around them. -/
theorem Advances.exists_pathAfter {e : Course τ} (he : c.Advances e) {task : Task}
    {inner below : List Task} (h : c.tasks = task :: inner ++ below) : ∃ inner',
      e.tasks = inner' ++ below ∧ pathAfter e.path inner' = pathAfter c.path (task :: inner) := by
  cases he with
  | finished htasks => cases h.symm.trans htasks
  | closed target rest htasks =>
    obtain ⟨rfl, rfl⟩ := List.cons.inj (h.symm.trans htasks)
    exact ⟨inner, rfl, rfl⟩
  | returned source depth left rest htasks =>
    obtain ⟨rfl, rfl⟩ := List.cons.inj (h.symm.trans htasks)
    exact ⟨inner, rfl, rfl⟩
  | evaluated source depth t later rest e htasks he =>
    obtain ⟨rfl, rfl⟩ := List.cons.inj (h.symm.trans htasks)
    cases he with
    | left | passed | exceeded | charged => exact ⟨.terms source depth later :: inner, rfl, rfl⟩
    | called hc depth' =>
      exact ⟨.follow source depth' t :: .terms source depth later :: inner, rfl, rfl⟩
  | followed source depth t rest e htasks he =>
    obtain ⟨rfl, rfl⟩ := List.cons.inj (h.symm.trans htasks)
    cases he with
    | passed | loop | expired | refused | aborted => exact ⟨inner, rfl, rfl⟩
    | visited target hp n failure depth' terms =>
      refine ⟨.terms target depth' terms :: .exit target :: inner, rfl, ?_⟩
      -- The domain was not on the path, so the path is the same without it.
      show pathAfter ((insert target c.path).erase target) inner = _
      rw [Finset.erase_insert hp]
      rfl

end Relations

section Timing

variable {τ : Type} [Seconds τ] (z : Zone τ) (limit : Int) (deadline : τ) {c : Course τ}

/-! ## One moment and the next one -/

/-- The answer to the lookup of a domain leads to one of these. -/
theorem follows_receive {target : Text} (hp : target ∉ c.path) (source : Text) (t : Term)
    (link : Link) (depth : Nat) (answer : Answer) :
    c.Follows source t
      ((c.ask z deadline target).receive deadline source t link target depth answer) := by
  cases answer with
  | texts texts =>
    simp only [receive]
    cases selectSpfRecords texts with
    | nil => exact .refused _ _ _ _
    | cons raw others =>
      dsimp only
      cases Record.read raw target with
      | ok r => exact .visited target hp _ _ _ _ _ _
      | error a => exact .aborted _ _ _
  | notFound m | failed m => exact .refused _ _ _ _
  | timedOut m =>
    simp only [receive]
    split
    · exact .expired _ _
    · exact .refused _ _ _ _
  | broken m => exact .aborted _ _ _

/-- Following a term leads to one of these. -/
theorem follows_follow (source : Text) (depth : Nat) (t : Term) :
    c.Follows source t (c.follow z deadline source depth t) := by
  unfold follow
  split
  · exact .passed
  · rename_i link target ht
    split
    · exact .loop target
    · rename_i hp
      split
      · exact .expired _ _
      · exact follows_receive z deadline hp source t link depth _

/-- The next moment is one of these. -/
theorem advances_next (c : Course τ) : c.Advances (c.next z limit deadline) := by
  unfold next
  split
  · rename_i h
    exact .finished h
  · rename_i target rest h
    exact .closed target rest h
  · rename_i source depth t rest h
    exact .followed source depth t rest _ h (follows_follow z deadline source depth t)
  · rename_i source depth rest h
    exact .returned source depth [] rest h
  · rename_i source depth t later rest h
    split
    · exact .returned source depth (t :: later) rest h
    · exact .evaluated source depth t later rest _ h (evaluates_evaluate limit source depth t)

/-! ## One moment and a later one -/

/-- Every moment of a course is sound. -/
theorem Sound.moment (h : c.Sound) (n : Nat) : (c.moment z limit deadline n).Sound := by
  induction n generalizing c with
  | zero => exact h
  | succ n ih => exact ih (h.advances (advances_next z limit deadline c))

/-- From one moment to a later one, things are only added. -/
theorem Sound.leadsTo (h : c.Sound) (n : Nat) :
    c.toProgress.LeadsTo (c.moment z limit deadline n).toProgress := by
  induction n generalizing c with
  | zero => exact .refl _
  | succ n ih =>
    have hnext := advances_next z limit deadline c
    exact (hnext.leadsTo h).trans (ih (h.advances hnext))

/-- The calls inside the tasks `below` are done after `n` moments, and not before. -/
structure ReturnsAfter (c : Course τ) (below : List Task) (n : Nat) : Prop where
  /-- Nothing but `below` is left to be done. -/
  tasks : (c.moment z limit deadline n).tasks = below
  /-- Until then, something else is. -/
  active : ∀ m < n, below.length < (c.moment z limit deadline m).tasks.length

variable {z limit deadline}

/-- In a course that comes to an end, the calls inside some tasks are done at some moment, and the
path is then what it will be after them. -/
theorem exists_returnsAfter {last : Nat} (inner : List Task) {below : List Task}
    (hlast : (c.moment z limit deadline last).tasks = []) (h : c.tasks = inner ++ below) :
    ∃ n, c.ReturnsAfter z limit deadline below n ∧
      (c.moment z limit deadline n).path = pathAfter c.path inner := by
  -- The calls around the inner ones stay as they are, so the induction goes along the moments.
  induction last generalizing c inner with
  | zero =>
    obtain ⟨rfl, rfl⟩ := List.append_eq_nil_iff.1 (h.symm.trans hlast)
    exact ⟨0, ⟨h, fun _ hm => absurd hm (Nat.not_lt_zero _)⟩, rfl⟩
  | succ last ih =>
    cases inner with
    | nil => exact ⟨0, ⟨h, fun _ hm => absurd hm (Nat.not_lt_zero _)⟩, rfl⟩
    | cons task inner =>
      obtain ⟨inner', hnext, hpath⟩ := (advances_next z limit deadline c).exists_pathAfter h
      rw [moment_succ] at hlast
      obtain ⟨n, hreturns, hn⟩ := ih inner' hlast hnext
      refine ⟨n + 1, ⟨hreturns.tasks, fun m hm => ?_⟩, hn.trans hpath⟩
      cases m with
      | zero =>
        show below.length < c.tasks.length
        rw [h, List.length_append, List.length_cons]
        omega
      | succ m => exact hreturns.active m (Nat.lt_of_succ_lt_succ hm)

/-! ## The frame of the calls -/

/-- The path after a call is the path before it. -/
theorem pathAfter_call {call : Task} (h : call.isCall = true) (path : Finset Text) :
    pathAfter path [call] = path := by
  cases call with
  | terms | follow => rfl
  | exit => cases h

variable (z limit deadline) in
/-- What holds of the moments of an evaluation and of its calls. -/
structure KeepsFrame (c : Course τ) : Prop where
  /-- At every moment, the evaluation is halted if and only if the limit was exceeded or the time
  used up. -/
  halted_iff : ∀ n, (c.moment z limit deadline n).halted = true ↔
    (c.moment z limit deadline n).chain.limitExceeded = true ∨
      (c.moment z limit deadline n).chain.timedOut = true
  /-- From every moment to every later one, things are only added. -/
  leadsTo : ∀ n m, (c.moment z limit deadline n).toProgress.LeadsTo
    (c.moment z limit deadline (n + m)).toProgress
  /-- Every call returns, whether the evaluation is aborted in it or not. -/
  returns : ∀ n call below, (c.moment z limit deadline n).tasks = call :: below →
    call.isCall = true → ∃ m, (c.moment z limit deadline n).ReturnsAfter z limit deadline below m ∧
      (c.moment z limit deadline n).toProgress.ReturnsAs
        (c.moment z limit deadline (n + m)).toProgress

/-- The calls of a course that comes to an end keep their frame. -/
theorem Sound.keepsFrame (h : c.Sound) {last : Nat}
    (hlast : (c.moment z limit deadline last).tasks = []) : c.KeepsFrame z limit deadline := by
  have hleads (n m : Nat) : (c.moment z limit deadline n).toProgress.LeadsTo
      (c.moment z limit deadline (n + m)).toProgress := by
    rw [moment_add]
    exact (h.moment z limit deadline n).leadsTo z limit deadline m
  refine ⟨fun n => (h.moment z limit deadline n).halted_iff, hleads, ?_⟩
  intro n call below htasks hcall
  -- The course that begins at the call ends where the whole course does.
  have hend : ((c.moment z limit deadline n).moment z limit deadline last).tasks = [] := by
    rw [← moment_add, Nat.add_comm, moment_add, moment_of_tasks_eq_nil hlast, hlast]
  obtain ⟨m, hreturns, hpath⟩ := exists_returnsAfter [call] hend htasks
  rw [pathAfter_call hcall, ← moment_add] at hpath
  exact ⟨m, hreturns, (hleads n m).returnsAs hpath⟩

end Timing

end Course

section Timing

variable {τ : Type} [Seconds τ]

/-- The expansion of a record can be carried out in place, by calls that return with the path that
they were given. What is found is only added to, and from the moment at which the evaluation is
halted, only terms are left. -/
theorem calls_keep_frame (z : Zone τ) (l : Limits τ) (deadline now : τ) (domain raw : Text)
    (records : List Text) (root : Record) (hread : Record.read raw domain = .ok root) :
    (∃ n,
      let last := (Course.start now records root).moment z l.lookups.most deadline n
      last.tasks = [] ∧
        last.outcome = (Chain.evaluate z l deadline now domain records raw).outcome ∧
        last.asked = (Chain.evaluate z l deadline now domain records raw).queries) ∧
      (Course.start now records root).KeepsFrame z l.lookups.most deadline := by
  obtain ⟨n, hlast, hfound⟩ := Course.exists_last z l deadline now records hread
  exact ⟨⟨n, hlast, hfound⟩, (Course.sound_start now records root).keepsFrame hlast⟩

end Timing

/-- A zone whose source fails two records below the root. -/
def unsteadyZone : Zone Rat where
  answer domain :=
    if domain = ("b" : Text) then .texts ["v=spf1 include:c a"] else .broken "connection reset"
  delay _ := 0

/-- The record of the root. -/
def unsteadyRecord : Text := "v=spf1 include:b mx -all"

/-- The call that follows the root's include is left when the source fails. The path is that of the
root again when it returns. -/
theorem unsteadyZone_keeps_frame :
    ∃ root, Record.read unsteadyRecord "a" = .ok root ∧
      let moment := (Course.start (0 : Rat) [unsteadyRecord] root).moment unsteadyZone 10 5
      (moment 6).path = {("a" : Text), ("b" : Text)} ∧
        (moment 6).abort = some (.source "connection reset") ∧
        ∃ below m, (moment 2).tasks = .follow "a" 1 (.mechanism .pass (.includes "b")) :: below ∧
          (moment (2 + m)).tasks = below ∧ (moment (2 + m)).path = {("a" : Text)} := by
  obtain ⟨root, hread, hfound⟩ : ∃ root, Record.read unsteadyRecord "a" = .ok root ∧
      (let moment := (Course.start (0 : Rat) [unsteadyRecord] root).moment unsteadyZone 10 5
      ((moment 6).path, (moment 6).abort, (moment 2).path, (moment 2).tasks)) =
        ({("a" : Text), ("b" : Text)}, some (.source "connection reset"), {("a" : Text)},
          [.follow "a" 1 (.mechanism .pass (.includes "b")),
            .terms "a" 0 [.mechanism .pass (.mx ""), .mechanism .fail .all]]) :=
    exists_ok_of_map_toOption _ (by decide +kernel)
  simp only [Prod.mk.injEq] at hfound
  obtain ⟨hpath, habort, hbefore, htasks⟩ := hfound
  obtain ⟨-, hkept⟩ := calls_keep_frame unsteadyZone ⟨(10 : Int), 5⟩ 5 0 "a" unsteadyRecord
    [unsteadyRecord] root hread
  obtain ⟨m, hreturns, hsame⟩ := hkept.returns 2 _ _ htasks rfl
  rw [Course.moment_add] at hsame
  refine ⟨root, hread, hpath, habort, _, m, htasks, ?_, ?_⟩
  · rw [Course.moment_add]
    exact hreturns.tasks
  · rw [Course.moment_add, ← hbefore]
    exact hsame.path

end SenderPolicy
