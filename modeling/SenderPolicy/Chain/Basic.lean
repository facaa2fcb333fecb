import SenderPolicy.Notice
import SenderPolicy.Record
import SenderPolicy.Zone

/-!
# Chains of records

The record of a domain refers to the records of other domains. A `Chain` is what the expansion of
those references found: the records in the order in which they were met, and every reference that
could not be followed. A `Traced` result comes with the lookups that were made for it and the
notices that were given on the way.
-/

namespace SenderPolicy

/-- Why a domain that is referred to has no usable record. -/
inductive FailureKind
  /-- It publishes no SPF record. -/
  | missing
  /-- Its record is not well formed. -/
  | invalid
  /-- The lookup of its record failed. -/
  | lookupFailed
  deriving DecidableEq, Repr

/-- The word for a kind of failure. -/
def FailureKind.word : FailureKind → String
  | .missing => "missing"
  | .invalid => "invalid"
  | .lookupFailed => "lookup_failed"

/-- A domain without a usable record. -/
structure Failure where
  /-- The domain that is referred to. -/
  domain : Text
  /-- Why its record is not usable. -/
  kind : FailureKind
  /-- What is known about it. -/
  message : Text
  deriving DecidableEq, Repr

/-- One domain of an expansion. -/
structure Node where
  /-- The domain. -/
  domain : Text
  /-- Its record, if it has one. -/
  record : Option Record
  /-- The number of references that lead to it from the root. -/
  depth : Nat
  /-- The reference that leads to it; the root has none. -/
  via : Option Link
  /-- Why it has no record. -/
  error : Option Text
  deriving Repr

/-- The lookups that are charged for reaching a node. -/
def Node.cost (n : Node) : Nat := if n.via.isSome then 1 else 0

/-- What the expansion of a domain's references found. -/
structure Chain where
  /-- The domain under evaluation. -/
  domain : Text
  /-- The record of the domain. -/
  root : Option Record
  /-- The SPF records that the domain publishes. -/
  spfRecords : List Text
  /-- The domains met, in the order in which they were met. -/
  nodes : List Node
  /-- The lookups charged. -/
  lookups : Int
  /-- Whether the allowed number of lookups was used up. -/
  limitExceeded : Bool
  /-- Whether the allowed time was used up. -/
  timedOut : Bool
  /-- The references that lead back to a domain under evaluation, by source and target. -/
  cycles : List (Text × Text)
  /-- The domains without a usable record. -/
  failures : List Failure
  /-- The terms that were not evaluated, each with the domain of its record. -/
  unresolved : List (Text × Term)
  /-- Why the TXT records of the domain could not be fetched. -/
  rootError : Option Text

/-- A chain in which nothing was found yet. -/
def Chain.ofDomain (domain : Text) : Chain :=
  ⟨domain, none, [], [], 0, false, false, [], [], [], none⟩

/-- A result, the lookups that were made for it and the notices that were given. -/
structure Traced (τ α : Type) where
  /-- The result, unless the evaluation was aborted. -/
  outcome : Except Abort α
  /-- The lookups, in the order in which they were made. -/
  queries : List (Query τ)
  /-- The notices, in the order in which they were given. -/
  notices : List (Notice τ)

end SenderPolicy
