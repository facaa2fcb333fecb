import SenderPolicy.Http.Startup
import SenderPolicy.Proofs.Http.Exchange
import SenderPolicy.Proofs.Http.Held
import SenderPolicy.Proofs.Http.Window

/-!
# Keeping a rate limit

`Service.accepted` gathers, from the answers alone, the times at which requests of a client were
held to the limit and not refused, and `Service.acceptedSincePurge` those that no purge has come
after. The latter are all that the service keeps of its history (`Service.times_admissionsAfter`),
so whether a request is refused is a matter of their number in its window
(`Service.isRefusal_answer_iff`). A request is accepted only if there are less than the limit, so no
window without a purge gets to hold more (`Service.countP_covers_accepted_le`). What does not add to
a client's times does not change how the client is answered later on
(`Service.times_admissionsAfter_append`). `Service.limit_kept` puts all this together.
-/

namespace SenderPolicy.Http

/-! ## Accepted requests -/

/-- What happened is listed in its order: nothing is later than what comes before it in the list. -/
def History.IsOrdered {τ : Type} [Seconds τ] (h : History τ) : Prop :=
  h.Pairwise fun later earlier => earlier.now ≤ later.now

namespace Service

section Accepted

variable {τ : Type} [Seconds τ] (s : Service τ)

/-- Whether a request is held to the limit and not refused after a history. A response that is lost
counts as well. -/
def accepts (h : History τ) (w : Surroundings τ) (r : Request) : Bool :=
  s.isHeld r && !(s.answer h w r).response.isRefusal

/-- The times at which requests of a client were accepted, the latest first. -/
def accepted (client : Text) : History τ → List τ
  | [] => []
  | ⟨w, .request r⟩ :: h =>
    if r.client = client ∧ s.accepts h w r = true then w.now :: accepted client h
    else accepted client h
  | ⟨_, .purge⟩ :: h => accepted client h

/-- The times at which requests of a client were accepted since the last purge, the latest first. -/
def acceptedSincePurge (client : Text) : History τ → List τ
  | [] => []
  | ⟨w, .request r⟩ :: h =>
    if r.client = client ∧ s.accepts h w r = true then w.now :: acceptedSincePurge client h
    else acceptedSincePurge client h
  | ⟨_, .purge⟩ :: _ => []

/-- Requests were accepted at times of the history. -/
theorem accepted_sublist (client : Text) (h : History τ) :
    (s.accepted client h).Sublist (h.map Occurrence.now) := by
  fun_induction accepted s client h with
  | case1 => exact List.Sublist.slnil
  | case2 w r h hr ih => exact ih.cons_cons _
  | case3 w r h hr ih => exact ih.cons _
  | case4 w h ih => exact ih.cons _

/-- Requests that were accepted since the last purge were accepted. -/
theorem acceptedSincePurge_sublist (client : Text) (h : History τ) :
    (s.acceptedSincePurge client h).Sublist (s.accepted client h) := by
  fun_induction acceptedSincePurge s client h with
  | case1 => exact List.nil_sublist _
  | case2 w r h hr ih =>
    rw [accepted, if_pos hr]
    exact ih.cons_cons _
  | case3 w r h hr ih =>
    rw [accepted, if_neg hr]
    exact ih
  | case4 => exact List.nil_sublist _

variable {s} {l : RateLimit τ} {h : History τ} {client : Text}

/-- Of an ordered history the accepted requests are ordered. -/
theorem pairwise_acceptedSincePurge (hordered : h.IsOrdered) (client : Text) :
    (s.acceptedSincePurge client h).Pairwise fun later earlier => earlier ≤ later := by
  have htimes : (h.map Occurrence.now).Pairwise fun later earlier => earlier ≤ later :=
    List.pairwise_map.2 hordered
  exact htimes.sublist ((s.acceptedSincePurge_sublist client h).trans (s.accepted_sublist client h))

/-- The times that the service keeps of a client are those of the requests that it accepted since
the last purge. -/
theorem times_admissionsAfter (hrule : s.activeRule = .limited l) (client : Text) (h : History τ) :
    (s.admissionsAfter h).times client = s.acceptedSincePurge client h := by
  induction h with
  | nil => rfl
  | cons o h ih =>
    obtain ⟨w, r | _⟩ := o
    · have haccepted : (s.isHeld r = true ∧ r.client = client ∧
          (s.handle w (s.admissionsAfter h) r).response.isRefusal = false) ↔
            r.client = client ∧ s.accepts h w r = true := by
        rw [accepts, answer, Bool.and_eq_true, Bool.not_eq_true']
        exact and_left_comm
      rw [admissionsAfter, times_admissions_handle hrule, ih, acceptedSincePurge]
      exact if_congr haccepted rfl rfl
    · rw [admissionsAfter, admissions_purge hrule]
      rfl

/-! ## What a window holds -/

/-- A request that is held to the limit is refused if and only if as many requests as the limit were
accepted from its client since the start of its window and the last purge. -/
theorem isRefusal_answer_iff [SlidingSeconds τ] (hrule : s.activeRule = .limited l)
    (hordered : h.IsOrdered) {w : Surroundings τ} {r : Request} (hheld : s.isHeld r = true) :
    (s.answer h w r).response.isRefusal = true ↔
      l.requests ≤ (s.acceptedSincePurge r.client h).countP (l.start w.now ≤ ·) := by
  rw [answer, (handle_of_isHeld hrule hheld w _).1, times_admissionsAfter hrule,
    Bool.not_eq_true', ← Bool.not_eq_true, RateLimit.admits_iff
      (pairwise_acceptedSincePurge hordered r.client), Nat.not_lt]

/-- As long as the window lasts, a purge before it has taken nothing from it. -/
theorem countP_covers_accepted [SlidingSeconds τ] {now t : τ} (hordered : h.IsOrdered)
    (hnow : ∀ o ∈ h, o.now ≤ now) (ht : now ≤ t)
    (hpurge : ∀ o ∈ h, o.event = .purge → l.covers t o.now = false) (client : Text) :
    (s.accepted client h).countP (l.covers t) =
      (s.acceptedSincePurge client h).countP (l.covers t) := by
  induction h with
  | nil => rfl
  | cons o h ih =>
    obtain ⟨hfirst, hrest⟩ := List.pairwise_cons.1 hordered
    have ih := ih hrest (fun o ho => hnow o (List.mem_cons_of_mem _ ho))
      (fun o ho => hpurge o (List.mem_cons_of_mem _ ho))
    obtain ⟨w, r | _⟩ := o
    · rw [accepted, acceptedSincePurge]
      split
      · rw [List.countP_cons, List.countP_cons, ih]
      · exact ih
    · -- The window has not begun at the purge, and nothing before it is later.
      have hcovers : ¬ l.covers t w.now = true :=
        Bool.not_eq_true _ ▸ hpurge _ List.mem_cons_self rfl
      have hle : w.now ≤ t := SlidingSeconds.le_trans (hnow _ List.mem_cons_self) ht
      have hstart : ¬ l.start t < w.now := fun h => hcovers (RateLimit.covers_iff.2 ⟨h, hle⟩)
      rw [accepted, acceptedSincePurge, List.countP_nil, List.countP_eq_zero]
      intro x hx hcovered
      obtain ⟨o, ho, rfl⟩ := List.mem_map.1 ((s.accepted_sublist client h).subset hx)
      have hafter := (RateLimit.covers_iff.1 hcovered).1
      exact hstart (SlidingSeconds.lt_of_lt_of_le hafter (hfirst o ho))

/-- No window without a purge holds more accepted requests of a client than the limit. -/
theorem countP_covers_accepted_le [SlidingSeconds τ] (hrule : s.activeRule = .limited l) {t : τ}
    (hordered : h.IsOrdered) (hpurge : ∀ o ∈ h, o.event = .purge → l.covers t o.now = false)
    (client : Text) : (s.accepted client h).countP (l.covers t) ≤ l.requests := by
  -- Only the latest accepted request of the window can make it too full.
  induction h with
  | nil => exact Nat.zero_le _
  | cons o h ih =>
    obtain ⟨hfirst, hrest⟩ := List.pairwise_cons.1 hordered
    have hpurge' : ∀ o ∈ h, o.event = .purge → l.covers t o.now = false :=
      fun o ho => hpurge o (List.mem_cons_of_mem _ ho)
    have ih := ih hrest hpurge'
    obtain ⟨w, r | _⟩ := o
    · rw [accepted]
      split
      · rename_i haccepted
        obtain ⟨rfl, haccepts⟩ := haccepted
        rw [List.countP_cons]
        cases hcovers : l.covers t w.now with
        | false => exact ih
        | true =>
          -- The request was admitted, so its own window held less than the limit.
          simp only [accepts, Bool.and_eq_true, Bool.not_eq_true', ← Bool.not_eq_true] at haccepts
          obtain ⟨hheld, hanswer⟩ := haccepts
          rw [isRefusal_answer_iff hrule hrest hheld, Nat.not_le] at hanswer
          have ht : w.now ≤ t := (RateLimit.covers_iff.1 hcovers).2
          have hwindow := calc (s.accepted r.client h).countP (l.covers t)
            _ = (s.acceptedSincePurge r.client h).countP (l.covers t) :=
              countP_covers_accepted hrest hfirst ht hpurge' r.client
            _ ≤ (s.acceptedSincePurge r.client h).countP (l.start w.now ≤ ·) :=
              RateLimit.countP_covers_le ht _
            _ < l.requests := hanswer
          exact hwindow
      · exact ih
    · exact ih

/-! ## What does not count -/

/-- What happened does not count for a client: it was a request of another client, or one that is
not held to the limit, or one that was refused. -/
def Spares (s : Service τ) (client : Text) (h : History τ) (w : Surroundings τ) (r : Request) :
    Prop :=
  r.client ≠ client ∨ s.isHeld r = false ∨ (s.answer h w r).response.isRefusal = true

/-- What does not count for a client leaves the times that are kept of it as they are, whatever
happens afterwards. -/
theorem times_admissionsAfter_append (hrule : s.activeRule = .limited l) {w : Surroundings τ}
    {r : Request} (hspares : s.Spares client h w r) (after : History τ) :
    (s.admissionsAfter (after ++ ⟨w, .request r⟩ :: h)).times client =
      (s.admissionsAfter (after ++ h)).times client := by
  -- The induction goes from the request on, up to the latest of what happened after it.
  induction after with
  | nil =>
    rw [List.nil_append, List.nil_append, admissionsAfter, times_admissions_handle hrule, if_neg]
    rintro ⟨hheld, hclient, hanswer⟩
    rcases hspares with hother | hnot | hrefused
    · exact hother hclient
    · rw [hheld] at hnot
      cases hnot
    · rw [answer, hanswer] at hrefused
      cases hrefused
  | cons o after ih =>
    obtain ⟨w', r' | _⟩ := o
    · simp only [List.cons_append, admissionsAfter, times_admissions_handle hrule, ih]
      by_cases hclient : r'.client = client
      · -- The client's own request is answered alike, so it is accepted in both histories or none.
        subst hclient
        rw [(sameAnswer_of_times_eq hrule ih w').response]
      · simp only [hclient, false_and, and_false, if_false]
    · simp only [List.cons_append, admissionsAfter, admissions_purge hrule]

/-! ## Keeping the limit -/

/-- A service that is started with a limit on requests is held to the configured numbers, if the
window can be measured. -/
theorem activeRule_ofConfig {config : Json} {s : Service Binary64} {requests window : Int}
    (h : ofConfig config = .ok s) (hlimiting : (config.field "RATELIMIT_ENABLED").isTruthy = true)
    (hnumbers : rateNumbers config = .ok (requests, window)) (hrequests : 0 ≤ requests)
    (hwindow : 1 ≤ window) (hfinite : (Binary64.ofInt window).isFinite = true) :
    s.activeRule = .limited ⟨requests.toNat, .ofInt window⟩ := by
  have hparts : s.limiting = true ∧ s.rule = .ofNumbers requests window := by
    unfold ofConfig at h
    simp only [hlimiting, hnumbers, bind, Except.bind, Except.mapError, pure, Except.pure,
      if_true] at h
    cases hpattern : Logging.patternOf config <;> rw [hpattern] at h
    · cases h
    cases hstore : checkStore config <;> rw [hstore] at h
    · cases h
    cases horigins : configuredOrigins config <;> rw [horigins] at h
    · cases h
    cases hbase : configuredBase config <;> rw [hbase] at h <;> cases h
    exact ⟨rfl, rfl⟩
  have hlength : max 1 window = window := by omega
  have hsigns : (decide (requests < 0) || decide (window < 0)) = false := by
    rw [Bool.or_eq_false_iff, decide_eq_false_iff_not, decide_eq_false_iff_not]
    omega
  have hrule : RateRule.ofNumbers requests window =
      .limited ⟨requests.toNat, .ofInt window⟩ := by
    simp only [RateRule.ofNumbers, hlength, hsigns, hfinite, if_true, Bool.false_eq_true, if_false]
  rw [activeRule, hparts.1, if_pos rfl, hparts.2, hrule]

/-- A service keeps a rate limit, whatever happens to it and in whatever order its clients come. -/
structure KeepsLimit (s : Service τ) (l : RateLimit τ) : Prop where
  /-- The requests that are held to the limit are those to the two paths of reports. -/
  held_iff (r : Request) : s.isHeld r = true ↔
    r.isHostWellFormed = true ∧ r.isTwoWay = false ∧
      ((r.path = mergeSlashes (s.base ++ "/spf") ∧ r.method ≠ .other) ∨
        (r.path = mergeSlashes (s.base ++ "/spf/record") ∧
          (r.method = .post ∨ r.method = .options)))
  /-- Requests for the state of the service are not held to it. -/
  health (r : Request) : r.path = "/health" → s.isHeld r = false
  /-- No window without a purge holds more accepted requests of a client than the limit. -/
  window (h : History τ) (client : Text) (t : τ) : h.IsOrdered →
    (∀ o ∈ h, o.event = .purge → l.covers t o.now = false) →
      (s.accepted client h).countP (l.covers t) ≤ l.requests
  /-- A request is refused if and only if it is held to the limit and as many requests of its client
  as the limit were accepted since the last purge, from the start of its window until now. -/
  refused_iff (h : History τ) (w : Surroundings τ) (r : Request) :
    History.IsOrdered (⟨w, .request r⟩ :: h) →
      ((s.answer h w r).response.status = 429 ↔ s.isHeld r = true ∧
        l.requests ≤ (s.acceptedSincePurge r.client h).countP fun x =>
          l.start w.now ≤ x && x ≤ w.now)
  /-- A request that does not count for a client changes no later answer to it. -/
  spared (h after : History τ) (w w' : Surroundings τ) (r r' : Request) :
    s.Spares r'.client h w r →
      (s.answer (after ++ h) w' r').SameAnswer (s.answer (after ++ ⟨w, .request r⟩ :: h) w' r')
  /-- A refused request causes no lookup. -/
  unasked (h : History τ) (w : Surroundings τ) (r : Request) :
    (s.answer h w r).response.status = 429 → (s.answer h w r).queries = []

/-- The limit is kept, on an exact clock and on a machine. -/
theorem limit_kept [SlidingSeconds τ] (s : Service τ) (l : RateLimit τ)
    (hrule : s.activeRule = .limited l) : s.KeepsLimit l where
  held_iff _ := isHeld_iff
  health _ := isHeld_of_path_eq_health
  window _ client _ hordered hpurge := countP_covers_accepted_le hrule hordered hpurge client
  refused_iff h w r hordered := by
    obtain ⟨hfirst, hrest⟩ := List.pairwise_cons.1 hordered
    have hstatus : (s.answer h w r).response.status = 429 ↔
        (s.answer h w r).response.isRefusal = true := decide_eq_true_iff.symm
    -- None of the times is later than the request.
    have hcount : (s.acceptedSincePurge r.client h).countP (fun x =>
        l.start w.now ≤ x && x ≤ w.now) =
          (s.acceptedSincePurge r.client h).countP (l.start w.now ≤ ·) := by
      refine List.countP_congr fun x hx => ?_
      obtain ⟨o, ho, rfl⟩ := List.mem_map.1 ((s.accepted_sublist r.client h).subset
        ((s.acceptedSincePurge_sublist r.client h).subset hx))
      simp [show o.now ≤ w.now from hfirst o ho]
    rw [hstatus, hcount]
    constructor
    · intro hrefused
      have hheld := (queries_of_isRefusal hrule hrefused).1
      exact ⟨hheld, (isRefusal_answer_iff hrule hrest hheld).1 hrefused⟩
    · rintro ⟨hheld, hle⟩
      exact (isRefusal_answer_iff hrule hrest hheld).2 hle
  spared _ after _ w' _ _ hspares :=
    sameAnswer_of_times_eq hrule (times_admissionsAfter_append hrule hspares after) w'
  unasked _ _ _ hstatus := (queries_of_isRefusal hrule (decide_eq_true hstatus)).2

end Accepted

end Service

/-- A service that admits two requests of a client in ten seconds. -/
def tightService : Service Rat where
  version := .null
  base := "/api/v1"
  origins := []
  limiting := true
  rule := .limited ⟨2, 10⟩
  assessor := .ofLimits ⟨(10 : Int), 5⟩

/-- The world at a time, without any records. -/
def bareSurroundings (now : Rat) : Surroundings Rat where
  zone := ⟨fun _ => .texts [], fun _ => 0⟩
  now := now
  moment := ⟨2024, 1, 1, 0, 0, 0, 0⟩

/-- A request of a client without anything in it. -/
def bareRequest (verb target client : Text) : Request where
  verb := verb
  target := target
  query := []
  headers := []
  body := []
  peer := client

/-- A client asks for reports of both kinds and for the state of the service, and so does another
client. The requests are purged between the last two. -/
def busyHistory : History Rat :=
  [ ⟨bareSurroundings 12, .request (bareRequest "GET" "/api/v1/spf" "a")⟩,
    ⟨bareSurroundings 12, .purge⟩,
    ⟨bareSurroundings 11, .request (bareRequest "GET" "/api/v1/spf" "a")⟩,
    ⟨bareSurroundings 10, .request (bareRequest "GET" "/api/v1/spf" "a")⟩,
    ⟨bareSurroundings 5, .request (bareRequest "GET" "/api/v1/spf" "b")⟩,
    ⟨bareSurroundings 4, .request (bareRequest "POST" "/api/v1/spf/record" "a")⟩,
    ⟨bareSurroundings 3, .request (bareRequest "GET" "/health" "a")⟩,
    ⟨bareSurroundings 0, .request (bareRequest "GET" "/api/v1/spf" "a")⟩ ]

/-- The service with the tight limit keeps it. The request at the time 10 is refused, since the one
at the time 0 still counts against it. -/
theorem tightService_keeps_limit : tightService.KeepsLimit ⟨2, 10⟩ ∧
    tightService.accepted "a" busyHistory = [12, 11, 4, 0] ∧
    tightService.acceptedSincePurge "a" busyHistory = [12] :=
  ⟨Service.limit_kept tightService ⟨2, 10⟩ rfl, by decide +kernel, by decide +kernel⟩

end SenderPolicy.Http
