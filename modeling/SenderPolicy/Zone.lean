import SenderPolicy.Seconds
import SenderPolicy.Text.Basic

/-!
# Sources of TXT records

A zone stands for the DNS as far as the library asks it: for each domain an answer to the question
for its TXT records, and the seconds that the answer takes. A zone may be any function, so nothing
bounds the number of domains in it or the length of a chain of references.
-/

namespace SenderPolicy

/-- What the question for the TXT records of a domain is answered. -/
inductive Answer
  /-- The texts of the records, in their order. -/
  | texts (texts : List Text)
  /-- There is no such domain, or it has no TXT records. -/
  | notFound (message : Text)
  /-- The answer did not come in time. -/
  | timedOut (message : Text)
  /-- The lookup failed for another reason. -/
  | failed (message : Text)
  /-- The source itself failed, which no one who asks is prepared for. -/
  | broken (message : Text)
  deriving DecidableEq, Repr

/-- The answers of the DNS and the time that each takes. -/
structure Zone (τ : Type) where
  /-- The answer for a domain. -/
  answer : Text → Answer
  /-- The seconds that the answer takes. -/
  delay : Text → τ

/-- One question for TXT records. -/
structure Query (τ : Type) where
  /-- The domain asked for. -/
  domain : Text
  /-- The seconds that the answer may take. -/
  timeout : τ
  deriving DecidableEq, Repr

section Elapsed

variable {τ : Type} [Seconds τ]

/-- The time at which the last of a list of questions is answered, if the first of them is asked
at the time `now` and each of the others when the one before it has been answered. -/
def Zone.after (z : Zone τ) : (now : τ) → List (Query τ) → τ
  | now, [] => now
  | now, q :: qs => z.after (now + z.delay q.domain) qs

/-- Questions one after another take the time of the ones and then of the others. -/
theorem Zone.after_append (z : Zone τ) (now : τ) (qs rs : List (Query τ)) :
    z.after now (qs ++ rs) = z.after (z.after now qs) rs := by
  induction qs generalizing now with
  | nil => rfl
  | cons q qs ih => exact ih _

end Elapsed

end SenderPolicy
