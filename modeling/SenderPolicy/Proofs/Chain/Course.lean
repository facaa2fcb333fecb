import Mathlib.Data.Finset.Basic
import Mathlib.Logic.Function.Iterate
import SenderPolicy.Proofs.Chain.Expansion

/-!
# The course of an evaluation

A walk goes through a stack of open records and lists what it did. The same evaluation can be
carried out in place: a chain is added to as things are found, a set of domains tells which records
are open, and a flag tells when to stop. `Progress` is what is kept in place. A `Course` is one
moment of such an evaluation, with the calls that are still to be finished. `Course.next` goes on to
the next moment, and `Course.moment` to any later one.

There are two kinds of calls. One goes through the terms of a record, and charges and follows them
one by one; the other follows a term, and goes through the record that it leads to with the domain
of this record on the path. A call that is halted leaves its terms, and one that is aborted leaves
everything but the path, from which its domain is taken in any case.
-/

namespace SenderPolicy

/-- What an evaluation keeps in place. -/
structure Progress where
  /-- What was found so far. -/
  chain : Chain
  /-- The domains of the open records. -/
  path : Finset Text
  /-- Whether the evaluation was halted. -/
  halted : Bool

namespace Progress

variable (p : Progress)

/-- A lookup is charged. -/
def charge : Progress := { p with chain := { p.chain with lookups := p.chain.lookups + 1 } }

/-- A term is left unresolved. -/
def leave (source : Text) (t : Term) : Progress :=
  { p with chain := { p.chain with unresolved := p.chain.unresolved ++ [(source, t)] } }

/-- The evaluation is halted at a term that is charged beyond the limit. -/
def exceed (source : Text) (t : Term) : Progress :=
  { p.leave source t with
    chain := { (p.leave source t).chain with limitExceeded := true }
    halted := true }

/-- The evaluation is halted at a term for which no time is left. -/
def expire (source : Text) (t : Term) : Progress :=
  { p.leave source t with
    chain := { (p.leave source t).chain with timedOut := true }
    halted := true }

/-- A reference leads back to an open record. -/
def loop (source target : Text) : Progress :=
  { p with chain := { p.chain with cycles := p.chain.cycles ++ [(source, target)] } }

/-- A domain is met, with what is not usable about its record. -/
def meet (n : Node) (failure : Option Failure) : Progress :=
  { p with
    chain := { p.chain with
      nodes := p.chain.nodes ++ [n]
      failures := p.chain.failures ++ failure.toList } }

/-- The record of a domain is opened. -/
def enter (target : Text) : Progress := { p with path := insert target p.path }

/-- The record of a domain is closed. -/
def exit (target : Text) : Progress := { p with path := p.path.erase target }

end Progress

/-- What is to be done in the course of an evaluation. -/
inductive Task
  /-- Go through the terms that are left of the record of a domain. -/
  | terms (source : Text) (depth : Nat) (left : List Term)
  /-- Follow a term of the record of a domain, to a record of some depth. -/
  | follow (source : Text) (depth : Nat) (t : Term)
  /-- Close the record of a domain. -/
  | exit (target : Text)
  deriving DecidableEq, Repr

/-- Whether a task is a call; closing a record is the end of one. -/
def Task.isCall : Task → Bool
  | .exit _ => false
  | _ => true

/-- One moment of an evaluation. -/
structure Course (τ : Type) extends Progress where
  /-- The time. -/
  now : τ
  /-- The lookups that were made, in their order. -/
  asked : List (Query τ)
  /-- Why the evaluation is aborted, if it is. -/
  abort : Option Abort
  /-- What is to be done, the innermost call first. -/
  tasks : List Task

namespace Course

section Timing

variable {τ : Type} [Seconds τ]

/-- The first moment of the evaluation of a root record. -/
def start (now : τ) (records : List Text) (root : Record) : Course τ where
  chain := { Chain.ofDomain root.domain with
    root := root
    spfRecords := records
    nodes := [⟨root.domain, root, 0, none, none⟩] }
  path := {root.domain}
  halted := false
  now := now
  asked := []
  abort := none
  tasks := [.terms root.domain 0 root.terms]

variable (z : Zone τ) (limit : Int) (deadline : τ) (c : Course τ)

/-- What the evaluation returned, if nothing is left to be done. -/
def outcome : Except Abort Chain :=
  match c.abort with
  | some a => .error a
  | none => .ok c.chain

/-- Evaluates a term of a record: it is left if the evaluation was halted, passed over if it is
charged nothing, and otherwise charged and then followed, if it is of a kind that is. -/
def evaluate (source : Text) (depth : Nat) (t : Term) : Course τ :=
  if c.halted then { c with toProgress := c.toProgress.leave source t }
  else if t.charge = 0 then c
  else if limit < c.toProgress.charge.chain.lookups then
    { c with toProgress := c.toProgress.charge.exceed source t }
  else if t.link?.isSome then
    { c with toProgress := c.toProgress.charge, tasks := .follow source (depth + 1) t :: c.tasks }
  else { c with toProgress := c.toProgress.charge }

/-- Looks up a domain, which takes its time. -/
def ask (target : Text) : Course τ :=
  { c with
    now := c.now + z.delay target
    asked := c.asked ++ [⟨target, remaining deadline c.now⟩] }

/-- A domain is met that has no record. -/
def refuse (link : Link) (target : Text) (depth : Nat) (kind : FailureKind) (message : Text) :
    Course τ :=
  { c with
    toProgress := c.toProgress.meet ⟨target, none, depth, link, message⟩
      (some ⟨target, kind, message⟩) }

/-- A domain is met whose record is gone through. -/
def visit (link : Link) (target : Text) (depth : Nat) (r : Record) : Course τ :=
  { c with
    toProgress := (c.toProgress.meet ⟨target, r, depth, link, none⟩
      (r.diagnostic.map fun d => ⟨target, .invalid, d.message⟩)).enter target
    tasks := .terms target depth r.terms :: .exit target :: c.tasks }

/-- A domain is met whose record was read, if it can be. -/
def meetRecord (link : Link) (target : Text) (depth : Nat) : Except Abort Record → Course τ
  | .ok r => c.visit link target depth r
  | .error a => { c with abort := some a }

/-- Receives the answer to the lookup of the domain that a term refers to. -/
def receive (source : Text) (t : Term) (link : Link) (target : Text) (depth : Nat) :
    Answer → Course τ
  | .texts texts =>
    match selectSpfRecords texts with
    | [] => c.refuse link target depth .missing (noRecordMessage target)
    | raw :: _ => c.meetRecord link target depth (Record.read raw target)
  | .notFound m => c.refuse link target depth .missing m
  | .timedOut m =>
    if remaining deadline c.now ≤ 0 then { c with toProgress := c.toProgress.expire source t }
    else c.refuse link target depth .lookupFailed m
  | .failed m => c.refuse link target depth .lookupFailed m
  | .broken m => { c with abort := some (.source m) }

/-- Follows a term: nothing is done if its target depends on the message under evaluation; a loop is
noted; and otherwise the target is looked up, if time is left. -/
def follow (source : Text) (depth : Nat) (t : Term) : Course τ :=
  match t.target? with
  | none => c
  | some (link, target) =>
    if target ∈ c.path then { c with toProgress := c.toProgress.loop source target }
    else if remaining deadline c.now ≤ 0 then { c with toProgress := c.toProgress.expire source t }
    else (c.ask z deadline target).receive deadline source t link target depth (z.answer target)

/-- The next moment. A call that is aborted does nothing more, but a record is closed even so. -/
def next : Course τ :=
  match c.tasks with
  | [] => c
  | .exit target :: tasks => { c with toProgress := c.toProgress.exit target, tasks }
  | .follow source depth t :: tasks => { c with tasks }.follow z deadline source depth t
  | .terms _ _ [] :: tasks => { c with tasks }
  | .terms source depth (t :: later) :: tasks =>
    if c.abort.isSome then { c with tasks }
    else { c with tasks := .terms source depth later :: tasks }.evaluate limit source depth t

/-- The moment that is a number of moments later. -/
def moment (n : Nat) : Course τ := (next z limit deadline)^[n] c

variable {z limit deadline c}

/-- What is later than the next moment is one moment later. -/
theorem moment_succ (n : Nat) :
    c.moment z limit deadline (n + 1) = (c.next z limit deadline).moment z limit deadline n := rfl

/-- What is later than a later moment is later by both. -/
theorem moment_add (n m : Nat) : c.moment z limit deadline (n + m) =
    (c.moment z limit deadline n).moment z limit deadline m := by
  rw [Nat.add_comm]
  exact Function.iterate_add_apply _ m n c

/-- Once nothing is left to be done, nothing happens. -/
theorem moment_of_tasks_eq_nil (h : c.tasks = []) (n : Nat) : c.moment z limit deadline n = c :=
  Function.iterate_fixed (by rw [next, h]) n

end Timing

end Course

end SenderPolicy
