import SenderPolicy.LookupLimit
import SenderPolicy.Seconds
import SenderPolicy.Term.Basic

/-!
# Notices

What an evaluation reports to an operator while it runs. A notice is a value; the line that is
written for it and the channel that carries it follow from the value.
-/

namespace SenderPolicy

/-- The part of the library that gives a notice. -/
inductive Channel
  /-- The lookup of TXT records. -/
  | lookup
  /-- The expansion of a chain of records. -/
  | chain
  /-- The assembly of reports. -/
  | report
  deriving DecidableEq, Repr

/-- How urgent a notice is. -/
inductive Urgency
  /-- An ordinary event. -/
  | info
  /-- A problem outside the record under evaluation. -/
  | warning
  deriving DecidableEq, Repr

/-- Something that happened during an evaluation. -/
inductive Notice (τ : Type)
  /-- A lookup did not end within its time. -/
  | lookupOverdue (domain : Text) (lifetime : τ)
  /-- A lookup failed. -/
  | lookupFailed (domain : Text) (reason : Text)
  /-- The domain has no TXT records. -/
  | noTexts (domain : Text)
  /-- The TXT records of the domain could not be fetched. -/
  | fetchFailed (domain : Text) (message : Text)
  /-- None of the TXT records of the domain is an SPF record. -/
  | noRecord (domain : Text)
  /-- More than one of the TXT records of the domain is an SPF record. -/
  | severalRecords (domain : Text) (count : Nat)
  /-- A reference leads back to a domain under evaluation. -/
  | loop (link : Link) (source target : Text)
  /-- A reference leads to a domain without a usable record. -/
  | unusable (link : Link) (message : Text)
  /-- The allowed number of lookups is used up. -/
  | overBudget (limit : LookupLimit) (root : Text)
  /-- The allowed time is used up. -/
  | overdue (root : Text) (allowed : τ)
  /-- A report is complete. -/
  | reported (domain : Text) (valid : Bool) (lookups : Int) (issues : Nat)
  deriving Repr

namespace Notice

variable {τ : Type}

/-- The channel that carries a notice. -/
def channel : Notice τ → Channel
  | .lookupOverdue .. | .lookupFailed .. => .lookup
  | .reported .. => .report
  | _ => .chain

/-- How urgent a notice is. -/
def urgency : Notice τ → Urgency
  | .lookupOverdue .. | .lookupFailed .. | .fetchFailed .. | .overdue .. => .warning
  | _ => .info

/-- A truth value as a notice shows it. -/
def truth (b : Bool) : String := if b then "True" else "False"

/-- The line that is written for a notice. -/
def message [Seconds τ] : Notice τ → Text
  | .lookupOverdue d t =>
    "DNS timeout resolving TXT for " ++ d ++ " after " ++ Seconds.fixed 1 t ++ "s"
  | .lookupFailed d reason => "DNS error resolving TXT for " ++ d ++ ": " ++ reason
  | .noTexts d => "No TXT records published by " ++ d
  | .fetchFailed d m => "Could not fetch TXT records for " ++ d ++ ": " ++ m
  | .noRecord d => "No SPF record published by " ++ d
  | .severalRecords d n =>
    d ++ " publishes " ++ toString n ++ " SPF records, using the first"
  | .loop link s t =>
    "SPF " ++ link.name ++ " loop: " ++ s ++ " -> " ++ t
  | .unusable link m => "SPF " ++ link.name ++ " target unusable: " ++ m
  | .overBudget limit root =>
    "DNS lookup limit of " ++ limit.text ++ " exceeded while evaluating " ++
      root
  | .overdue root allowed =>
    "SPF evaluation of " ++ root ++ " exceeded its " ++ Seconds.fixed 1 allowed ++
      "s deadline"
  | .reported d valid lookups issues =>
    "SPF validation for " ++ d ++ ": valid=" ++ truth valid ++ ", lookups=" ++
      toString lookups ++ ", issues=" ++ toString issues

end Notice

end SenderPolicy
