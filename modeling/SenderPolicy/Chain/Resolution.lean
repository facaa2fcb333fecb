import SenderPolicy.Chain.Walk

/-!
# Resolving a domain

`resolve` looks up the record that a domain publishes and expands it; `preview` expands a record
that is given for the domain. Both go through `evaluate`, so they differ only in where the record
comes from and in the time that is left for the walk.
-/

namespace SenderPolicy

/-- What one evaluation is allowed. -/
structure Limits (τ : Type) where
  /-- The number of lookups that the terms may be charged. -/
  lookups : LookupLimit
  /-- The seconds from the start after which no lookup is begun. -/
  seconds : τ

section Timing

variable {τ : Type} [Seconds τ]

namespace Walk

variable (w : Walk τ)

/-- The notice that is given when the walk ends. -/
def lastNotice? (l : Limits τ) (root : Text) : Option (Notice τ) :=
  match w.ending with
  | .overBudget _ => some (.overBudget l.lookups root)
  | .outOfTime _ _ => some (.overdue root l.seconds)
  | _ => none

/-- The notices that are given, in their order. -/
def notices (l : Limits τ) (root : Text) : List (Notice τ) :=
  w.steps.filterMap Step.notice? ++ (w.lastNotice? l root).toList

/-- The nodes of the expansion of a root record. -/
def nodesFrom (root : Record) : List Node := ⟨root.domain, root, 0, none, none⟩ :: w.nodes

/-- What the expansion of a root record found. -/
def chain (records : List Text) (root : Record) : Chain where
  domain := root.domain
  root := root
  spfRecords := records
  nodes := w.nodesFrom root
  lookups := w.charged
  limitExceeded := w.ending.isOverBudget
  timedOut := w.ending.isOutOfTime
  cycles := w.cycles
  failures := w.failures
  unresolved := w.ending.unresolved
  rootError := none

/-- What the expansion of a root record found, unless it was aborted. -/
def outcome (records : List Text) (root : Record) : Except Abort Chain :=
  match w.ending with
  | .aborted _ a => .error a
  | _ => .ok (w.chain records root)

end Walk

namespace Chain

/-- Expands a record from the time `now` on, for a domain that publishes `records`. -/
def evaluate (z : Zone τ) (l : Limits τ) (deadline now : τ) (domain : Text) (records : List Text)
    (raw : Text) : Traced τ Chain :=
  match Record.read raw domain with
  | .error a => ⟨.error a, [], []⟩
  | .ok root =>
    let w := walk z deadline l.lookups.most.toNat now [⟨domain, root.terms⟩]
    ⟨w.outcome records root, w.queries, w.notices l domain⟩

/-- Expands the first of the SPF records among the texts that a domain publishes. -/
def ofTexts (z : Zone τ) (l : Limits τ) (deadline now : τ) (domain : Text) (texts : List Text) :
    Traced τ Chain :=
  match selectSpfRecords texts with
  | [] => ⟨.ok (ofDomain domain), [], [.noRecord domain]⟩
  | [raw] => evaluate z l deadline now domain [raw] raw
  | raw :: others =>
    let t := evaluate z l deadline now domain (raw :: others) raw
    ⟨t.outcome, t.queries, .severalRecords domain (others.length + 1) :: t.notices⟩

/-- A domain whose TXT records could not be fetched. -/
def unfetched (domain : Text) (message : Text) : Traced τ Chain :=
  ⟨.ok { ofDomain domain with rootError := some message }, [], [.fetchFailed domain message]⟩

/-- What the answer to the lookup of a domain's own TXT records leads to. -/
def ofAnswer (z : Zone τ) (l : Limits τ) (deadline now : τ) (domain : Text) :
    Answer → Traced τ Chain
  | .texts texts => ofTexts z l deadline now domain texts
  | .notFound _ => ⟨.ok (ofDomain domain), [], [.noTexts domain]⟩
  | .timedOut message => unfetched domain message
  | .failed message => unfetched domain message
  | .broken message => ⟨.error (.source message), [], []⟩

/-- Resolves the record that a domain publishes, starting at the time `now`. -/
def resolve (z : Zone τ) (l : Limits τ) (now : τ) (domain : Text) : Traced τ Chain :=
  let name := normalizeDomain domain
  let deadline := now + l.seconds
  let q : Query τ := ⟨name, remaining deadline now⟩
  let t := ofAnswer z l deadline (now + z.delay name) name (z.answer name)
  ⟨t.outcome, q :: t.queries, t.notices⟩

/-- Resolves a record that is given for a domain, starting at the time `now`. -/
def preview (z : Zone τ) (l : Limits τ) (now : τ) (domain raw : Text) : Traced τ Chain :=
  evaluate z l (now + l.seconds) now (normalizeDomain domain) [raw] raw

end Chain

end Timing

end SenderPolicy
