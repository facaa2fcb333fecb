import SenderPolicy.Http.History
import SenderPolicy.Proofs.Record.Readable

/-!
# Single exchanges under a rate limit

A request that is held to the limit is answered by the view of its route if the limit admits it, and
refused with status 429 and without a lookup if not (`Service.handle_of_isHeld`). No other request
is refused, and none is kept (`Service.handle_of_not_isHeld`). What the service keeps of its history
enters an answer only through the times at which the client was admitted
(`Service.sameAnswer_of_times_eq`), and of these it keeps one more for every request of the client
that is held to the limit and not refused (`Service.times_admissions_handle`). A purge leaves none
(`Service.admissions_purge`).
-/

namespace SenderPolicy.Http

/-! ## Refusals -/

/-- Whether a request was refused for the rate limit. -/
def Response.isRefusal (response : Response) : Bool := response.status = 429

/-- Headers make no refusal. -/
@[simp] theorem Response.isRefusal_withHeaders (response : Response)
    (headers : List (String × Text)) :
    (response.withHeaders headers).isRefusal = response.isRefusal := rfl

/-- A response without its body is as much a refusal as with it. -/
@[simp] theorem Response.isRefusal_withoutBody (response : Response) :
    response.withoutBody.isRefusal = response.isRefusal := rfl

/-- A value of the body that cannot be had is no matter of the rate limit. -/
theorem eq_breakdown_of_bodyField {r : Request} {name : String} {p : Problem}
    (h : bodyField r name = .error p) : p = breakdown := by
  unfold bodyField at h
  cases hb : r.bodyObject with
  | ok v => simp [hb] at h
  | error f => simpa [hb, eq_comm] using h

/-- A request without a usable domain is not refused. -/
theorem isRefusal_of_domainOf {r : Request} {p : Problem} (h : domainOf r = .error p) :
    (Response.ofProblem p).isRefusal = false := by
  have hcases : p = badDomain ∨ p = breakdown := by
    unfold domainOf at h
    cases hv : domainValue r with
    | error q =>
      rw [hv] at h
      obtain rfl : q = p := by simpa [bind, Except.bind] using h
      unfold domainValue at hv
      split at hv
      · cases hv
      · exact .inr (eq_breakdown_of_bodyField hv)
    | ok v =>
      rw [hv] at h
      left
      cases hn : hostnameOf? v with
      | none => simpa [bind, Except.bind, hn, eq_comm] using h
      | some name => simp [bind, Except.bind, hn, pure, Except.pure] at h
  rcases hcases with rfl | rfl <;> rfl

/-- A request without a usable record is not refused. -/
theorem isRefusal_of_recordOf {r : Request} {p : Problem} (h : recordOf r = .error p) :
    (Response.ofProblem p).isRefusal = false := by
  have hcases : p = badRecord ∨ p = breakdown := by
    unfold recordOf at h
    cases hv : bodyField r "record" with
    | error q =>
      rw [hv] at h
      obtain rfl : q = p := by simpa [bind, Except.bind] using h
      exact .inr (eq_breakdown_of_bodyField hv)
    | ok v =>
      rw [hv] at h
      left
      cases v with
      | string text =>
        by_cases hblank : (Text.trim text).isEmpty = true
        · simpa [bind, Except.bind, hblank, eq_comm] using h
        · simp [bind, Except.bind, hblank, pure, Except.pure] at h
      | _ => simpa [bind, Except.bind, eq_comm] using h
  rcases hcases with rfl | rfl <;> rfl

/-- A report is no refusal. -/
theorem isRefusal_ofReport {τ : Type} (t : Traced τ Report) : (ofReport t).1.isRefusal = false := by
  unfold ofReport
  cases t.outcome <;> rfl

/-- Two exchanges are the same to the client. -/
structure Exchange.SameAnswer {τ : Type} (e e' : Exchange τ) : Prop where
  /-- The responses are the same. -/
  response : e'.response = e.response
  /-- The lookups are the same. -/
  queries : e'.queries = e.queries
  /-- The responses are lost for the same reason, if they are. -/
  fault : e'.fault = e.fault

section Timing

variable {τ : Type} [Seconds τ]

namespace Service

variable {s : Service τ} {w : Surroundings τ} {a a' : Admissions τ} {r : Request}
  {l : RateLimit τ}

/-- No view refuses a request. -/
theorem isRefusal_view (route : Route) : (s.view w route r).1.isRefusal = false := by
  unfold view
  split
  · rfl
  · cases route with
    | asset | health => rfl
    | published =>
      simp only [viewPublished]
      cases hd : domainOf r with
      | error p => exact isRefusal_of_domainOf hd
      | ok domain => exact isRefusal_ofReport _
    | given =>
      simp only [viewGiven]
      cases hd : domainOf r with
      | error p => exact isRefusal_of_domainOf hd
      | ok domain =>
        cases hr : recordOf r with
        | error p => exact isRefusal_of_recordOf hr
        | ok raw => exact isRefusal_ofReport _

/-! ## Requests that are held to the limit -/

/-- What is added for the shared origin changes nothing but the response, and makes no refusal. -/
theorem handle_cases (s : Service τ) (w : Surroundings τ) (a : Admissions τ) (r : Request) :
    (s.handle w a r).admissions = (s.respond w a r).admissions ∧
      (s.handle w a r).queries = (s.respond w a r).queries ∧
      (s.handle w a r).response.isRefusal = (s.respond w a r).response.isRefusal := by
  unfold handle
  cases corsHeaders s.origins r with
  | error f => exact ⟨rfl, rfl, rfl⟩
  | ok headers =>
    refine ⟨rfl, rfl, ?_⟩
    dsimp only
    split <;> simp

/-- Exchanges that are the same without the shared origin are the same with it. -/
theorem sameAnswer_handle (h : (s.respond w a r).SameAnswer (s.respond w a' r)) :
    (s.handle w a r).SameAnswer (s.handle w a' r) := by
  obtain ⟨hresponse, hqueries, hfault⟩ := h
  unfold handle
  cases corsHeaders s.origins r with
  | error f => exact ⟨hresponse, hqueries, rfl⟩
  | ok headers => exact ⟨by simp only [hresponse], hqueries, hfault⟩

/-- A request that is held to the limit is answered by the view of a route as far as the limit
admits it. -/
theorem exists_respond_eq_limitedView (hrule : s.activeRule = .limited l)
    (h : s.isHeld r = true) : ∃ route, ∀ w a, s.respond w a r = s.limitedView w l a route r := by
  unfold isHeld at h
  rw [Bool.and_eq_true] at h
  obtain ⟨hhost, hroute⟩ := h
  split at hroute
  · rename_i route hd
    refine ⟨route, fun w a => ?_⟩
    simp only [respond, hhost, hd, serve, hroute, hrule, Bool.not_true, Bool.false_eq_true,
      if_false, if_true]
  · cases hroute

/-- A request that is not held to the limit is answered whatever was admitted before. -/
theorem exists_respond_eq_of_not_isHeld (h : s.isHeld r = false) (w : Surroundings τ) :
    ∃ response queries, response.isRefusal = false ∧
      ∀ a, s.respond w a r = ⟨response, a, queries, none⟩ := by
  unfold respond
  cases hhost : r.isHostWellFormed with
  | false => exact ⟨.notUnderstood, [], rfl, fun _ => rfl⟩
  | true =>
    cases hd : destination s.base r.method r.isTwoWay r.path with
    | route route =>
      have hroute : route.isLimited = false := by simpa [isHeld, hhost, hd] using h
      refine ⟨(s.view w route r).1, (s.view w route r).2, isRefusal_view route, fun a => ?_⟩
      simp [serve, hroute]
    | moved path => exact ⟨.moved (r.placeOf path), [], rfl, fun _ => rfl⟩
    | wrongMethod => exact ⟨.methodNotAllowed, [], rfl, fun _ => rfl⟩
    | oneWayOnly => exact ⟨.notUnderstood, [], rfl, fun _ => rfl⟩
    | nowhere => exact ⟨.notFound, [], rfl, fun _ => rfl⟩

/-- A request that is held to the limit is kept if the limit admits it, and refused if not. It is
refused without a lookup. -/
theorem handle_of_isHeld (hrule : s.activeRule = .limited l) (h : s.isHeld r = true)
    (w : Surroundings τ) (a : Admissions τ) :
    (s.handle w a r).response.isRefusal = !l.admits w.now (a.times r.client) ∧
      (s.handle w a r).admissions =
        (if l.admits w.now (a.times r.client) then (r.client, w.now) :: a else a) ∧
      ((s.handle w a r).response.isRefusal = true → (s.handle w a r).queries = []) := by
  obtain ⟨route, hrespond⟩ := exists_respond_eq_limitedView hrule h
  obtain ⟨hadmissions, hqueries, hrefusal⟩ := s.handle_cases w a r
  rw [hadmissions, hqueries, hrefusal, hrespond w a]
  unfold limitedView
  cases l.admits w.now (a.times r.client) with
  | true =>
    have hview := isRefusal_view (s := s) (w := w) (r := r) route
    simp [hview]
  | false =>
    refine ⟨rfl, rfl, fun _ => rfl⟩

/-- A request that is not held to the limit is neither refused nor kept. -/
theorem handle_of_not_isHeld (h : s.isHeld r = false) (w : Surroundings τ) (a : Admissions τ) :
    (s.handle w a r).response.isRefusal = false ∧ (s.handle w a r).admissions = a := by
  obtain ⟨response, queries, hresponse, hrespond⟩ := exists_respond_eq_of_not_isHeld h w
  obtain ⟨hadmissions, -, hrefusal⟩ := s.handle_cases w a r
  rw [hadmissions, hrefusal, hrespond a]
  exact ⟨hresponse, rfl⟩

/-! ## What is kept of a history -/

/-- What was admitted before enters the answer to a request only through the times at which its
client was. -/
theorem sameAnswer_of_times_eq (hrule : s.activeRule = .limited l)
    (h : a'.times r.client = a.times r.client) (w : Surroundings τ) :
    (s.handle w a r).SameAnswer (s.handle w a' r) := by
  apply sameAnswer_handle
  cases hheld : s.isHeld r with
  | false =>
    obtain ⟨response, queries, -, hrespond⟩ := exists_respond_eq_of_not_isHeld hheld w
    rw [hrespond a, hrespond a']
    exact ⟨rfl, rfl, rfl⟩
  | true =>
    obtain ⟨route, hrespond⟩ := exists_respond_eq_limitedView hrule hheld
    rw [hrespond w a, hrespond w a']
    unfold limitedView
    rw [h]
    cases l.admits w.now (a.times r.client) with
    | true =>
      simp only [if_true, Admissions.times_cons, h]
      exact ⟨rfl, rfl, rfl⟩
    | false =>
      simp only [Bool.false_eq_true, if_false]
      exact ⟨rfl, rfl, rfl⟩

/-- One time more is kept for a client whose request is held to the limit and not refused. -/
theorem times_admissions_handle (hrule : s.activeRule = .limited l) (w : Surroundings τ)
    (a : Admissions τ) (r : Request) (client : Text) :
    (s.handle w a r).admissions.times client =
      if s.isHeld r = true ∧ r.client = client ∧ (s.handle w a r).response.isRefusal = false then
        w.now :: a.times client
      else a.times client := by
  cases hheld : s.isHeld r with
  | false =>
    obtain ⟨-, hadmissions⟩ := handle_of_not_isHeld hheld w a
    simp [hadmissions]
  | true =>
    obtain ⟨hrefusal, hadmissions, -⟩ := handle_of_isHeld hrule hheld w a
    rw [hadmissions, hrefusal]
    cases l.admits w.now (a.times r.client) with
    | true => simp [Admissions.times_cons]
    | false => simp

/-- A refused request is held to the limit and causes no lookup. -/
theorem queries_of_isRefusal (hrule : s.activeRule = .limited l)
    (h : (s.handle w a r).response.isRefusal = true) :
    s.isHeld r = true ∧ (s.handle w a r).queries = [] := by
  cases hheld : s.isHeld r with
  | false =>
    rw [(handle_of_not_isHeld hheld w a).1] at h
    cases h
  | true => exact ⟨rfl, (handle_of_isHeld hrule hheld w a).2.2 h⟩

/-- A purge leaves no admitted request. -/
theorem admissions_purge (hrule : s.activeRule = .limited l) (w : Surroundings τ)
    (a : Admissions τ) : (CommandLine.run s w a ["purge-rate-limits"]).admissions = [] := by
  have hlimiting : s.limiting = true := by
    cases hs : s.limiting with
    | true => rfl
    | false => simp [activeRule, hs] at hrule
  -- The words are read as the name of the command, with none of its own after it.
  have hprogram : (CommandLine.readProgram ["purge-rate-limits"]).toOption.map id =
      some (("purge-rate-limits" : Text), []) := by decide +kernel
  have hwords : (CommandLine.readWords CommandLine.Command.purge.form []).toOption.map
      (fun _ => ()) = some () := by decide +kernel
  have hcommand : CommandLine.Command.ofName? ("purge-rate-limits" : Text) = some .purge := by
    decide
  obtain ⟨_, hread, rfl⟩ := exists_ok_of_map_toOption id hprogram
  obtain ⟨words, hnone, -⟩ := exists_ok_of_map_toOption _ hwords
  have hperform : CommandLine.perform s w a .purge words =
      .ok (.printed "Rate limiting data purged.\n" []) := by
    simp only [CommandLine.perform, hlimiting, if_true]
  simp only [CommandLine.run, hread, hcommand, CommandLine.runCommand, hnone, bind, Except.bind,
    hperform]
  rfl

end Service

end Timing

end SenderPolicy.Http
