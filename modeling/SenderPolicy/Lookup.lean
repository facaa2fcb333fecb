import SenderPolicy.Notice
import SenderPolicy.Text.Utf8
import SenderPolicy.Zone

/-!
# Looking up TXT records

A resolver decides how long a lookup may take and which name servers it asks; `Resolver.plan` says
so for one lookup. The reply that comes back is made an answer by `Reply.answer`. A record consists
of one or more strings of bytes, which are joined before they are decoded, so that a character may
be cut in two by the end of a string.
-/

namespace SenderPolicy

/-- How lookups are made. -/
structure Resolver (τ : Type) where
  /-- The seconds that a lookup may take. -/
  timeout : τ
  /-- The name servers to ask. Without any, those of the system are asked. -/
  nameservers : List Text := []

/-- How one lookup is made. -/
structure Plan (τ : Type) where
  /-- Whether the name servers of the system are asked. -/
  usesSystem : Bool
  /-- The name servers that are asked instead. -/
  nameservers : Option (List Text)
  /-- The domain, and the seconds that the lookup may take. -/
  query : Query τ
  /-- The seconds that the resolver allows for every lookup. -/
  timeout : τ

section Timing

variable {τ : Type} [Seconds τ]

/-- The plan of a lookup for which the caller allows a number of seconds, or any number. -/
def Resolver.plan (r : Resolver τ) (domain : Text) (allowed : Option τ) : Plan τ where
  usesSystem := r.nameservers.isEmpty
  nameservers := if r.nameservers.isEmpty then none else some r.nameservers
  query := ⟨domain,
    match allowed with
    | none => r.timeout
    | some s => if r.timeout < s then r.timeout else s⟩
  timeout := r.timeout

end Timing

/-- What comes back from a lookup. -/
inductive Reply
  /-- The records, each a list of strings of bytes. -/
  | records (records : List (List (List UInt8)))
  /-- There is no such domain, or it has no TXT records. -/
  | absent
  /-- Nothing came back in time. -/
  | late
  /-- The lookup failed for a reason of the DNS. -/
  | failed (reason : Text)
  /-- The lookup failed for another reason. -/
  | broken (message : Text)

/-- The text of a record. -/
def recordText (strings : List (List UInt8)) : Text := Utf8.decode strings.flatten

/-- The wording of a domain without TXT records. -/
def absentMessage (domain : Text) : Text :=
  "No TXT records found for " ++ domain

namespace Reply

/-- The answer that a reply gives for a domain. -/
def answer (domain : Text) : Reply → Answer
  | .records rs => .texts (rs.map recordText)
  | .absent => .notFound (absentMessage domain)
  | .late => .timedOut ("DNS timeout resolving " ++ domain)
  | .failed reason =>
    .failed ("DNS error resolving " ++ domain ++ ": " ++ reason)
  | .broken message => .broken message

/-- The notice that is given with a reply to a lookup. -/
def notice? {τ : Type} (q : Query τ) : Reply → Option (Notice τ)
  | .late => some (.lookupOverdue q.domain q.timeout)
  | .failed reason => some (.lookupFailed q.domain reason)
  | _ => none

end Reply

end SenderPolicy
