import SenderPolicy.Chain.Basic
import SenderPolicy.DomainName

/-!
# The expansion of references

Terms are evaluated depth first, in the order of their records. The records that are open are kept
as a stack of frames, the innermost first, each with the terms it has still to evaluate. `next?`
finds the next term that is charged a lookup; `attempt` evaluates it; `walk` goes on from there with
one lookup less. So the allowed number of lookups bounds the walk on every zone
(`length_steps_walk_le`).

The walk records one `Step` for each term that it evaluated. The domains, loops, failures, lookups
and notices of the expansion are all read off the steps and the `Ending`.
-/

namespace SenderPolicy

/-- An open record. -/
structure Frame where
  /-- The domain of the record. -/
  domain : Text
  /-- The terms that are still to be evaluated. -/
  pending : List Term
  deriving Repr

/-- The next term to evaluate, and what is to be evaluated after it. -/
structure Due where
  /-- The domain of the record that holds the term. -/
  source : Text
  /-- The term. -/
  term : Term
  /-- The terms after it in its record. -/
  later : List Term
  /-- The frames around its record, the innermost first. -/
  outer : List Frame
  deriving Repr

namespace Due

/-- The first term that is charged a lookup. Records without one are closed. -/
def next? : List Frame → Option Due
  | [] => none
  | f :: outer =>
    match f.pending.dropWhile (·.charge = 0) with
    | [] => next? outer
    | t :: later => some ⟨f.domain, t, later, outer⟩

variable (d : Due)

/-- The frames that remain when the term has been evaluated. -/
def rest : List Frame := ⟨d.source, d.later⟩ :: d.outer

/-- The domains of the open records, the innermost first. -/
def path : List Text := d.source :: d.outer.map (·.domain)

/-- The depth of a record that the term refers to. -/
def depth : Nat := d.outer.length + 1

/-- The term and all that would be evaluated after it, each with the domain of its record. -/
def unresolved : List (Text × Term) :=
  (d.source, d.term) :: d.rest.flatMap fun f => f.pending.map (f.domain, ·)

/-- A term that is due is charged one lookup. -/
theorem charge_of_next? {frames : List Frame} {d : Due} (h : next? frames = some d) :
    d.term.charge = 1 := by
  induction frames with
  | nil => simp [next?] at h
  | cons f outer ih =>
    unfold next? at h
    split at h
    · exact ih h
    · rename_i t later ht
      obtain rfl := Option.some.inj h
      have hne : t.charge ≠ 0 := by
        have := List.head?_dropWhile_not (fun t : Term => decide (t.charge = 0)) f.pending
        rw [ht] at this
        simpa using this
      have := t.charge_le_one
      simp only
      omega

end Due

/-- What became of a term that was evaluated. -/
inductive Step (τ : Type)
  /-- The term refers to no record, or to one that depends on the message under evaluation. -/
  | charged (source : Text) (term : Term)
  /-- The term refers to a domain whose record is open. -/
  | loop (source : Text) (link : Link) (target : Text)
  /-- The term refers to a domain without a record. -/
  | unusable (link : Link) (query : Query τ) (depth : Nat) (kind : FailureKind) (message : Text)
  /-- The term refers to a domain whose record is evaluated next. -/
  | entered (link : Link) (query : Query τ) (depth : Nat) (record : Record)
  deriving Repr

/-- How a walk came to its end. -/
inductive Ending (τ : Type)
  /-- Every term was evaluated. -/
  | completed
  /-- The next term would be charged more lookups than allowed. -/
  | overBudget (unresolved : List (Text × Term))
  /-- The allowed time was used up before the lookup for a term, or by it. -/
  | outOfTime (query : Option (Query τ)) (unresolved : List (Text × Term))
  /-- The lookup for a term, or the record it found, ended the evaluation. -/
  | aborted (query : Query τ) (abort : Abort)
  deriving Repr

/-- What a walk did. -/
structure Walk (τ : Type) where
  /-- What became of the terms that were evaluated, in their order. -/
  steps : List (Step τ)
  /-- How the walk came to its end. -/
  ending : Ending τ
  deriving Repr

/-- What one evaluation of a term leads to. -/
inductive Attempt (τ : Type)
  /-- The walk goes on. -/
  | stepped (step : Step τ)
  /-- The walk ends. -/
  | halted (ending : Ending τ)
  deriving Repr

section Timing

variable {τ : Type} [Seconds τ]

namespace Step

/-- The lookup that was made. -/
def query? : Step τ → Option (Query τ)
  | .unusable _ q .. | .entered _ q .. => some q
  | _ => none

/-- The record that is to be evaluated next. -/
def opened : Step τ → List Frame
  | .entered _ q _ r => [⟨q.domain, r.terms⟩]
  | _ => []

/-- The domain that was met. -/
def node? : Step τ → Option Node
  | .unusable link q depth _ message => some ⟨q.domain, none, depth, link, message⟩
  | .entered link q depth r => some ⟨q.domain, r, depth, link, none⟩
  | _ => none

/-- The reference that leads back, by source and target. -/
def cycle? : Step τ → Option (Text × Text)
  | .loop source _ target => some (source, target)
  | _ => none

/-- The domain that has no usable record. -/
def failure? : Step τ → Option Failure
  | .unusable _ q _ kind message => some ⟨q.domain, kind, message⟩
  | .entered _ q _ r => r.diagnostic.map fun d => ⟨q.domain, .invalid, d.message⟩
  | _ => none

/-- The notice that is given. -/
def notice? : Step τ → Option (Notice τ)
  | .loop source link target => some (.loop link source target)
  | .unusable link _ _ _ message => some (.unusable link message)
  | _ => none

/-- The time at which the step is done, if it is begun at the time `now`. -/
def doneAt (z : Zone τ) (now : τ) (s : Step τ) : τ := z.after now s.query?.toList

end Step

/-- The wording of a domain whose TXT records hold no SPF record. -/
def noRecordMessage (domain : Text) : Text :=
  domain ++ " does not publish an SPF record"

/-- What the texts of a domain lead to: the first SPF record among them is evaluated next. -/
def openRecord (link : Link) (q : Query τ) (depth : Nat) (texts : List Text) : Attempt τ :=
  match selectSpfRecords texts with
  | [] => .stepped (.unusable link q depth .missing (noRecordMessage q.domain))
  | raw :: _ =>
    match Record.read raw q.domain with
    | .ok r => .stepped (.entered link q depth r)
    | .error a => .halted (.aborted q a)

/-- Looks up the domain that a term refers to. An answer that comes too late ends the walk if no
time is left after it. -/
def lookUp (z : Zone τ) (deadline now : τ) (d : Due) (link : Link) (target : Text) : Attempt τ :=
  let q : Query τ := ⟨target, remaining deadline now⟩
  match z.answer target with
  | .texts texts => openRecord link q d.depth texts
  | .notFound m => .stepped (.unusable link q d.depth .missing m)
  | .timedOut m =>
    if remaining deadline (now + z.delay target) ≤ 0 then .halted (.outOfTime (some q) d.unresolved)
    else .stepped (.unusable link q d.depth .lookupFailed m)
  | .failed m => .stepped (.unusable link q d.depth .lookupFailed m)
  | .broken m => .halted (.aborted q (.source m))

/-- Whether the name of a domain depends on the message under evaluation. -/
def isMacro (target : Text) : Bool := target.contains '%'

/-- Evaluates a term at the time `now`. -/
def attempt (z : Zone τ) (deadline now : τ) (d : Due) : Attempt τ :=
  match d.term.link? with
  | none => .stepped (.charged d.source d.term)
  | some (link, text) =>
    let target := normalizeDomain text
    if isMacro target then .stepped (.charged d.source d.term)
    else if d.path.contains target then .stepped (.loop d.source link target)
    else if remaining deadline now ≤ 0 then .halted (.outOfTime none d.unresolved)
    else lookUp z deadline now d link target

/-- Evaluates the terms of the open records from the time `now` on, with a number of lookups
allowed. -/
def walk (z : Zone τ) (deadline : τ) : (budget : Nat) → (now : τ) → List Frame → Walk τ
  | 0, _, frames =>
    match Due.next? frames with
    | none => ⟨[], .completed⟩
    | some d => ⟨[], .overBudget d.unresolved⟩
  | budget + 1, now, frames =>
    match Due.next? frames with
    | none => ⟨[], .completed⟩
    | some d =>
      match attempt z deadline now d with
      | .halted e => ⟨[], e⟩
      | .stepped s =>
        let w := walk z deadline budget (s.doneAt z now) (s.opened ++ d.rest)
        ⟨s :: w.steps, w.ending⟩

/-- The allowed number of lookups bounds the steps of a walk. -/
theorem length_steps_walk_le (z : Zone τ) (deadline : τ) (budget : Nat) (now : τ)
    (frames : List Frame) : (walk z deadline budget now frames).steps.length ≤ budget := by
  induction budget generalizing now frames with
  | zero => unfold walk; split <;> simp
  | succ budget ih =>
    unfold walk
    split
    · simp
    · split
      · simp
      · simpa using ih _ _

namespace Ending

/-- The lookup that ended the walk. -/
def query? : Ending τ → Option (Query τ)
  | .outOfTime q _ => q
  | .aborted q _ => some q
  | _ => none

/-- The terms that were not evaluated, each with the domain of its record. -/
def unresolved : Ending τ → List (Text × Term)
  | .overBudget u | .outOfTime _ u => u
  | _ => []

/-- Whether the walk ended at a term that was charged and not evaluated. -/
def isHalt : Ending τ → Bool
  | .overBudget _ | .outOfTime _ _ => true
  | _ => false

/-- Whether the allowed number of lookups was used up. -/
def isOverBudget : Ending τ → Bool
  | .overBudget _ => true
  | _ => false

/-- Whether the allowed time was used up. -/
def isOutOfTime : Ending τ → Bool
  | .outOfTime _ _ => true
  | _ => false

end Ending

namespace Walk

variable (w : Walk τ)

/-- The lookups charged: one for each term that was evaluated, and one for the term at which the
walk was halted. -/
def charged : Nat := w.steps.length + if w.ending.isHalt then 1 else 0

/-- The lookups made, in their order. -/
def queries : List (Query τ) := w.steps.filterMap Step.query? ++ w.ending.query?.toList

/-- The domains met, in their order. -/
def nodes : List Node := w.steps.filterMap Step.node?

/-- The references that lead back, in their order. -/
def cycles : List (Text × Text) := w.steps.filterMap Step.cycle?

/-- The domains without a usable record, in the order in which they were met. -/
def failures : List Failure := w.steps.filterMap Step.failure?

end Walk

end Timing

end SenderPolicy
