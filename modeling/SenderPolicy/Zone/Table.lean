import SenderPolicy.Configuration
import SenderPolicy.Lookup

/-!
# Zones in tables

A zone can be given as a table of answers. A domain that the table does not hold has no TXT
records. In JSON a table is an object with a field for each domain: a list of texts, or an object
that names an error and its message.
-/

namespace SenderPolicy

/-- The answer that a value of JSON stands for. -/
def Answer.ofJson : Json → Answer
  | .array ts => .texts (ts.map Json.characters)
  | v =>
    let message := (v.field "message").characters
    match (v.field "error").characters.toString with
    | "not_found" => .notFound message
    | "timeout" => .timedOut message
    | "dns" => .failed message
    | _ => .broken message

/-- A table of answers and of the time that each takes. -/
structure ZoneTable where
  /-- The answers, each with its domain. The first answer of a domain holds. -/
  answers : List (Text × Answer)
  /-- The seconds that answers take, each with its domain. -/
  delays : List (Text × Binary64) := []
  /-- The seconds that all other answers take. -/
  delay : Binary64 := 0

namespace ZoneTable

/-- The answers of an object. Of two fields of one name the later one holds. -/
def answersOf (v : Json) : List (Text × Answer) :=
  (v.fields.map fun (domain, a) => (domain, Answer.ofJson a)).reverse

/-- The delays of an object. Of two fields of one name the later one holds. -/
def delaysOf (v : Json) : List (Text × Binary64) :=
  (v.fields.map fun (domain, s) => (domain, s.seconds)).reverse

/-- The table with the answers of an object in place of those it holds for the same domains. -/
def replace (t : ZoneTable) (v : Json) : ZoneTable := { t with answers := answersOf v ++ t.answers }

/-- The zone of a table. -/
def zone (t : ZoneTable) : Zone Binary64 where
  answer domain := (t.answers.lookup domain).getD (.notFound (absentMessage domain))
  delay domain := (t.delays.lookup domain).getD t.delay

end ZoneTable

end SenderPolicy
