import SenderPolicy.Proofs.Http.Asking

/-!
# Asking for the headers alone

A `HEAD` asks for what a `GET` is answered, without the body. Every route admits both or neither
(`destination_asHead`), and the rate limit takes no notice of the method. So the service answers
both with the same status and after the same lookups, unless it reports on a domain: the domain is
read off the query for `GET` alone, and a `HEAD` has no body to name one in. Then the `HEAD` is
rejected without a lookup (`head_answers_iff`).
-/

namespace SenderPolicy.Http

/-- The request for the headers that a request is answered with. -/
def Request.asHead (r : Request) : Request := { r with verb := "HEAD", body := [] }

/-! ## What names a domain -/

section Domain

variable {g : Request}

/-- The method of such a request is `HEAD`. -/
theorem Request.method_asHead (g : Request) : g.asHead.method = .head := by
  show Method.ofName "HEAD" = .head
  decide +kernel

/-- A request without a body names no domain in it. -/
theorem domainOf_asHead (g : Request) : domainOf g.asHead = .error badDomain := by
  -- No bytes are no JSON, and what is no JSON counts as an empty object.
  have hread : readBody [] = .error .malformed := rfl
  have hbody : g.asHead.bodyObject = .ok (.object []) := by
    have hnone : g.asHead.body = [] := rfl
    rw [Request.bodyObject, hnone, hread]
    split <;> rfl
  have hvalue : domainValue g.asHead = .ok .null := by
    rw [domainValue, g.method_asHead, bodyField, hbody]
    rfl
  rw [domainOf, hvalue]
  rfl

/-- The hostname that a request names in its query. -/
def Request.queryName? (g : Request) : Option Text := (g.queryField? "domain").bind hostname?

/-- The domain of a `GET` is the hostname that it names in its query. -/
theorem domainOf_of_get (hget : g.method = .get) :
    domainOf g = match g.queryName? with
      | some name => .ok name
      | none => .error badDomain := by
  have hname : hostnameOf? (((g.queryField? "domain").map Json.string).getD .null) =
      g.queryName? := by
    unfold Request.queryName?
    cases g.queryField? "domain" <;> rfl
  rw [domainOf, domainValue, hget]
  show (match hostnameOf? (((g.queryField? "domain").map Json.string).getD .null) with
    | some name => pure name
    | none => Except.error badDomain) = _
  rw [hname]
  cases g.queryName? <;> rfl

end Domain

/-- A route admits `HEAD` if and only if it admits `GET`. -/
theorem Route.admits_head (r : Route) : r.admits .head = r.admits .get := by
  cases r <;> rfl

/-- A `HEAD` leads where a `GET` does. -/
theorem destination_asHead {g : Request} (hget : g.method = .get) (base : Text) :
    destination base g.asHead.method g.asHead.isTwoWay g.asHead.path =
      destination base g.method g.isTwoWay g.path := by
  rw [g.method_asHead, hget]
  simp only [destination, Route.admits_head]
  rfl

section Timing

variable {τ : Type} [Seconds τ]

/-- Two requests are answered alike but for the body: with the same status, after the same
lookups, and with the same requests admitted. -/
structure Exchange.AnswersAs (e e' : Exchange τ) : Prop where
  /-- The statuses are the same. -/
  status : e.response.status = e'.response.status
  /-- The lookups are the same. -/
  queries : e.queries = e'.queries
  /-- The requests admitted are the same. -/
  admissions : e.admissions = e'.admissions
  /-- The responses are lost for the same reason, if they are. -/
  fault : e.fault = e'.fault

namespace Service

variable {s : Service τ} {w : Surroundings τ} {a : Admissions τ} {g : Request} {name : Text}

/-- What is added for the shared origin changes no status. -/
theorem status_handle (s : Service τ) (w : Surroundings τ) (a : Admissions τ) (r : Request) :
    (s.handle w a r).response.status = (s.respond w a r).response.status := by
  unfold handle
  cases corsHeaders s.origins r with
  | error f => rfl
  | ok headers =>
    dsimp only
    split <;> rfl

/-- What is added for the shared origin keeps two answers alike. -/
theorem answersAs_handle (h : (s.respond w a g.asHead).AnswersAs (s.respond w a g)) :
    (s.handle w a g.asHead).AnswersAs (s.handle w a g) where
  status := by rw [status_handle, status_handle, h.status]
  queries := by rw [(s.handle_cases w a _).2.1, (s.handle_cases w a _).2.1, h.queries]
  admissions := by rw [(s.handle_cases w a _).1, (s.handle_cases w a _).1, h.admissions]
  fault := by
    have hshared : corsHeaders s.origins g.asHead = corsHeaders s.origins g := rfl
    unfold handle
    rw [hshared]
    cases corsHeaders s.origins g with
    | error f => rfl
    | ok headers => exact h.fault

/-- Requests of one client are answered alike if the view of their route, where they come to it,
answers them alike. -/
theorem answersAs_serve {route : Route} {r r' : Request} (hclient : r'.client = r.client)
    (hview : (route.isLimited = true → s.admits w a r = true) →
      (s.view w route r').1.status = (s.view w route r).1.status ∧
        (s.view w route r').2 = (s.view w route r).2) :
    (s.serve w a route r').AnswersAs (s.serve w a route r) := by
  -- What is not measured comes to the view in any case.
  have hunlimited (h : route.isLimited = true → s.admits w a r = true) :
      (⟨(s.view w route r').1, a, (s.view w route r').2, none⟩ : Exchange τ).AnswersAs
        ⟨(s.view w route r).1, a, (s.view w route r).2, none⟩ :=
    ⟨(hview h).1, (hview h).2, rfl, rfl⟩
  unfold serve
  unfold admits at hview hunlimited
  cases hlimited : route.isLimited with
  | false => exact hunlimited (by rw [hlimited]; exact fun h => nomatch h)
  | true =>
    cases hrule : s.activeRule with
    | unlimited => exact hunlimited (by rw [hrule]; exact fun _ => rfl)
    | unmeasured => exact ⟨rfl, rfl, rfl, rfl⟩
    | limited l =>
      rw [hlimited, hrule] at hview
      simp only [if_true, limitedView, hclient]
      cases hadmits : l.admits w.now (a.times r.client) with
      | true =>
        obtain ⟨hstatus, hqueries⟩ := hview fun _ => hadmits
        exact ⟨hstatus, hqueries, rfl, rfl⟩
      | false => exact ⟨rfl, rfl, rfl, rfl⟩

/-! ## Reports -/

/-- A `HEAD` is answered by the view of reports as a request that names no domain. -/
theorem view_asHead (s : Service τ) (w : Surroundings τ) (g : Request) :
    s.view w .published g.asHead = (.ofProblem badDomain, []) := by
  rw [view, g.method_asHead, if_neg (by decide), viewPublished, domainOf_asHead]

/-- A `GET` that names no hostname is answered by the view of reports as a request that names no
domain. -/
theorem view_of_queryName?_eq_none (hget : g.method = .get) (hname : g.queryName? = none) :
    s.view w .published g = (.ofProblem badDomain, []) := by
  rw [view, hget, if_neg (by decide), viewPublished, domainOf_of_get hget, hname]

/-- A `GET` that names a hostname is answered by the view of reports with what the assessor makes of
it. -/
theorem view_of_queryName?_eq_some (hget : g.method = .get) (hname : g.queryName? = some name) :
    s.view w .published g = ofReport (s.assessor.assess w.zone w.now w.moment name) := by
  rw [view, hget, if_neg (by decide), viewPublished, domainOf_of_get hget, hname]

/-- A service reports on a name to a `GET`: the request leads to the route for reports, the limit
admits it, and it names the hostname in its query. -/
structure ReportsTo (s : Service τ) (w : Surroundings τ) (a : Admissions τ) (g : Request)
    (name : Text) : Prop where
  /-- The host is well formed. -/
  host : g.isHostWellFormed = true
  /-- The request leads to the route for reports on published records. -/
  leads : destination s.base g.method g.isTwoWay g.path = .route .published
  /-- The request is admitted. -/
  admits : s.admits w a g = true
  /-- The first field of the query with the name `domain` is a hostname. -/
  named : g.queryName? = some name

/-- A `HEAD` is answered as a `GET` without the shared origin, unless the service reports on a name
to it. -/
theorem answersAs_respond (hget : g.method = .get) (hname : ∀ name, ¬ s.ReportsTo w a g name) :
    (s.respond w a g.asHead).AnswersAs (s.respond w a g) := by
  have hhost : g.asHead.isHostWellFormed = g.isHostWellFormed := rfl
  unfold respond
  rw [hhost, destination_asHead hget]
  cases hwell : g.isHostWellFormed with
  | false => exact ⟨rfl, rfl, rfl, rfl⟩
  | true =>
    cases hd : destination s.base g.method g.isTwoWay g.path with
    | route route =>
      have hroute := admits_of_destination hd
      refine answersAs_serve rfl fun hadmits => ?_
      -- The routes that admit `GET` differ from each other only in what their views make of it.
      cases route with
      | given =>
        rw [hget] at hroute
        cases hroute
      | health | asset =>
        rw [view, view, g.method_asHead, hget]
        exact ⟨rfl, rfl⟩
      | published =>
        have hnone : g.queryName? = none := by
          rw [Option.eq_none_iff_forall_ne_some]
          exact fun name hnamed => hname name ⟨hwell, hd, hadmits rfl, hnamed⟩
        rw [view_asHead, view_of_queryName?_eq_none hget hnone]
        exact ⟨rfl, rfl⟩
    | moved | wrongMethod | oneWayOnly | nowhere => exact ⟨rfl, rfl, rfl, rfl⟩

/-- A request that is admitted to the route for reports is answered with the status and after the
lookups of its view. -/
theorem handle_of_leads {r : Request} (hhost : r.isHostWellFormed = true)
    (hleads : destination s.base r.method r.isTwoWay r.path = .route .published)
    (hadmits : s.admits w a r = true) :
    (s.handle w a r).response.status = (s.view w .published r).1.status ∧
      (s.handle w a r).queries = (s.view w .published r).2 := by
  obtain ⟨headers, admissions, hserve⟩ := exists_serve_eq hadmits .published
  have hrespond : s.respond w a r = s.serve w a .published r := by
    rw [respond, hhost, hleads]
    rfl
  rw [status_handle, (s.handle_cases w a r).2.1, hrespond, hserve]
  exact ⟨rfl, rfl⟩

/-- Where the service reports on a name to a `GET`, it rejects the `HEAD` without a lookup. -/
theorem ReportsTo.handle_asHead (h : s.ReportsTo w a g name) (hget : g.method = .get) :
    (s.handle w a g.asHead).response.status = 400 ∧ (s.handle w a g.asHead).queries = [] := by
  have hleads : destination s.base g.asHead.method g.asHead.isTwoWay g.asHead.path =
      .route .published := by
    rw [destination_asHead hget]
    exact h.leads
  obtain ⟨hstatus, hqueries⟩ := handle_of_leads (r := g.asHead) h.host hleads h.admits
  rw [hstatus, hqueries, view_asHead]
  exact ⟨rfl, rfl⟩

/-- Where the service reports on a name to a `GET`, it makes the lookups of the assessor, and does
not reject it. -/
theorem ReportsTo.handle_get (h : s.ReportsTo w a g name) (hget : g.method = .get) :
    (s.handle w a g).response.status ≠ 400 ∧
      (s.handle w a g).queries = (s.assessor.assess w.zone w.now w.moment name).queries := by
  obtain ⟨hstatus, hqueries⟩ := handle_of_leads h.host h.leads h.admits
  rw [hstatus, hqueries, view_of_queryName?_eq_some hget h.named, ofReport]
  cases (s.assessor.assess w.zone w.now w.moment name).outcome with
  | error abort =>
    refine ⟨?_, rfl⟩
    show (500 : Int) ≠ 400
    decide
  | ok report =>
    refine ⟨?_, rfl⟩
    show (200 : Int) ≠ 400
    decide

end Service

/-- A `HEAD` is answered as the `GET` is if and only if the service does not report on a name to the
`GET`. If it does, it rejects the `HEAD` without a lookup. -/
theorem head_answers_iff (s : Service τ) (w : Surroundings τ) (a : Admissions τ) (g : Request)
    (hget : g.method = .get) :
    ((s.handle w a g.asHead).AnswersAs (s.handle w a g) ↔ ∀ name, ¬ s.ReportsTo w a g name) ∧
      ∀ name, s.ReportsTo w a g name →
        (s.handle w a g.asHead).response.status = 400 ∧ (s.handle w a g.asHead).queries = [] ∧
          (s.handle w a g).response.status ≠ 400 ∧
          (s.handle w a g).queries = (s.assessor.assess w.zone w.now w.moment name).queries := by
  constructor
  · constructor
    · intro halike name h
      exact (h.handle_get hget).1 (halike.status.symm.trans (h.handle_asHead hget).1)
    · exact fun hname => Service.answersAs_handle (Service.answersAs_respond hget hname)
  · intro name h
    obtain ⟨hstatus, hqueries⟩ := h.handle_asHead hget
    exact ⟨hstatus, hqueries, h.handle_get hget⟩

end Timing

/-- The world at the time 0, with two records. -/
def promptWorld : Surroundings Rat := ⟨twoHostsZone, 0, ⟨2024, 1, 1, 0, 0, 0, 0⟩⟩

/-- A `HEAD` for the report on a hostname is not answered as the `GET` is, and one for a name that
is no hostname is. -/
theorem heads_of_names :
    ¬ (tightService.handle promptWorld [] (getRequest "example.com" "a").asHead).AnswersAs
        (tightService.handle promptWorld [] (getRequest "example.com" "a")) ∧
      (tightService.handle promptWorld [] (getRequest "exam ple.com" "a").asHead).AnswersAs
        (tightService.handle promptWorld [] (getRequest "exam ple.com" "a")) := by
  constructor
  · have hreports : tightService.ReportsTo promptWorld [] (getRequest "example.com" "a")
        "example.com" :=
      ⟨by decide +kernel, by decide +kernel, by decide +kernel, by decide +kernel⟩
    intro halike
    exact (head_answers_iff tightService promptWorld [] (getRequest "example.com" "a") rfl).1.1
      halike "example.com" hreports
  · have hnone : (getRequest "exam ple.com" "a").queryName? = none := by decide +kernel
    refine (head_answers_iff tightService promptWorld [] (getRequest "exam ple.com" "a") rfl).1.2 ?_
    intro name hreports
    cases hnone.symm.trans hreports.named

/-- The limit admits the `GET` and the `HEAD` for a report. The `GET` is answered after two lookups,
and the `HEAD` is rejected without one. -/
theorem head_unlike_get :
    tightService.admits promptWorld [] (getRequest "example.com" "a") = true ∧
      tightService.admits promptWorld [] (getRequest "example.com" "a").asHead = true ∧
      (tightService.handle promptWorld [] (getRequest "example.com" "a")).response.status = 200 ∧
      (tightService.handle promptWorld [] (getRequest "example.com" "a")).queries.map Query.domain =
        [("example.com" : Text), "mail.example.com"] ∧
      (tightService.handle promptWorld [] (getRequest "example.com" "a").asHead).response.status =
        400 ∧
      (tightService.handle promptWorld [] (getRequest "example.com" "a").asHead).queries = [] := by
  decide +kernel

end SenderPolicy.Http
