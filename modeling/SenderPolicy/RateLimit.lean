import SenderPolicy.Configuration

/-!
# Rate limits

A rate limit admits a number of requests of one client in any window of a number of seconds. Only
admitted requests are kept. A request is admitted if the request that would fall out of the
window's count was admitted before the window: one that was admitted exactly at its start still
counts against it. What a client is told about its window counts the requests after the start only.

A client with fewer requests than the limit is always admitted (`admits_of_length_lt`), and a limit
of none admits nobody (`admits_of_requests_eq_zero`). The requests after the start are counted by
halving, which finds their number if the times are in order (`search_eq`).
-/

namespace SenderPolicy

/-- A number of requests in a number of seconds. -/
structure RateLimit (τ : Type) where
  /-- The number of requests that are admitted. -/
  requests : Nat
  /-- The length of the window in seconds. -/
  window : τ

/-- The numbers of a configuration's rate limit, the requests first. -/
def rateNumbers (config : Json) : Except NumeralError (Int × Int) := do
  let requests ← ((config.field? "RATELIMIT_MAX_REQUESTS").getD (.integer 10)).toInteger
  let window ← ((config.field? "RATELIMIT_WINDOW_SECONDS").getD (.integer 60)).toInteger
  pure (requests, window)

/-- The text of a configuration's rate limit. -/
def rateText (config : Json) : Except NumeralError String :=
  (rateNumbers config).map fun (requests, window) =>
    toString requests ++ " per " ++ toString window ++ " seconds"

/-- What requests are held to. -/
inductive RateRule (τ : Type)
  /-- Every request is admitted. -/
  | unlimited
  /-- A limit. -/
  | limited (limit : RateLimit τ)
  /-- A window that is too long to be measured, so that no request can be judged. -/
  | unmeasured

/-- The rule of two numbers. A window of no length counts as one second; negative numbers give no
limit. -/
def RateRule.ofNumbers (requests window : Int) : RateRule Binary64 :=
  let seconds := Binary64.ofInt (max 1 window)
  if requests < 0 || window < 0 then .unlimited
  else if seconds.isFinite then .limited ⟨requests.toNat, seconds⟩
  else .unmeasured

/-- The requests that were admitted, the latest first: the client and the time of each. -/
abbrev Admissions (τ : Type) := List (Text × τ)

/-- The times of a client's admitted requests, the latest first. -/
def Admissions.times {τ : Type} (a : Admissions τ) (client : Text) : List τ :=
  (a.filter (·.1 = client)).map (·.2)

/-- A client's times are one more if its own request is admitted. -/
theorem Admissions.times_cons {τ : Type} (a : Admissions τ) (client client' : Text) (now : τ) :
    Admissions.times ((client', now) :: a) client =
      if client' = client then now :: a.times client else a.times client := by
  by_cases h : client' = client <;> simp [times, h]

/-- Halves the range from `low` to `high` until it is empty: the upper half is searched if the
index in the middle has a property, and the lower half if not. The length of the range bounds the
steps. -/
def search (p : Nat → Bool) : (fuel low high : Nat) → Nat
  | 0, low, _ => low
  | fuel + 1, low, high =>
    if low < high then
      let middle := (low + high) / 2
      if p middle then search p fuel (middle + 1) high else search p fuel low middle
    else low

/-- If the indices with the property are those below `n`, the search ends at `n`. -/
theorem search_eq {p : Nat → Bool} {n : Nat} (hp : ∀ i, p i = decide (i < n)) {fuel low high : Nat}
    (hlow : low ≤ n) (hhigh : n ≤ high) (h : high - low ≤ fuel) : search p fuel low high = n := by
  induction fuel generalizing low high with
  | zero => unfold search; omega
  | succ fuel ih =>
    unfold search
    simp only
    split
    · split
      · rename_i hm
        rw [hp, decide_eq_true_eq] at hm
        exact ih hm hhigh (by omega)
      · rename_i hm
        rw [hp, decide_eq_true_eq] at hm
        exact ih hlow (by omega) (by omega)
    · omega

/-- What a client is told about its window. -/
structure Allowance where
  /-- The number of requests that are admitted in a window. -/
  limit : Nat
  /-- The number of requests that are left. -/
  remaining : Int
  /-- The time at which the window of the oldest request has passed. -/
  reset : Int
  /-- The seconds until then. -/
  retryAfter : Int
  deriving DecidableEq, Repr

namespace RateLimit

variable {τ : Type} [Seconds τ] (l : RateLimit τ)

/-- The start of the window that ends at a time. -/
def start (now : τ) : τ := now - l.window

/-- Whether a request at the time `now` is admitted after requests at `times`, the latest first. -/
def admits (now : τ) (times : List τ) : Bool :=
  match l.requests with
  | 0 => false
  | n + 1 => times[n]?.all fun t => !decide (l.start now ≤ t)

/-- The number of requests that a client is told to have made in the window. -/
def counted (now : τ) (times : List τ) : Nat :=
  search (fun i => times[i]?.any (l.start now < ·)) times.length 0 times.length

/-- The time from which the reset is reckoned: the oldest one counted, or else the oldest one, or
else the present. -/
def origin (now : τ) (times : List τ) : τ :=
  match l.counted now times with
  | 0 => times.getLast?.getD now
  | n + 1 => times[n]?.getD now

/-- What a client is told at the time `now`. -/
def allowance (now : τ) (times : List τ) : Allowance :=
  let reset := Seconds.whole (l.origin now times + l.window + Seconds.ofInt 1)
  { limit := l.requests
    remaining := l.requests - l.counted now times
    reset := reset
    retryAfter := Seconds.whole (Seconds.ofInt reset - now) }

/-- A limit of no requests admits none. -/
theorem admits_of_requests_eq_zero {l : RateLimit τ} (h : l.requests = 0) (now : τ)
    (times : List τ) : l.admits now times = false := by
  simp [admits, h]

/-- A client with fewer requests than the limit is admitted. -/
theorem admits_of_length_lt {l : RateLimit τ} {times : List τ} (now : τ)
    (h : times.length < l.requests) : l.admits now times := by
  unfold admits
  split
  · omega
  · rename_i n hn
    rw [List.getElem?_eq_none (by omega)]
    rfl

end RateLimit

end SenderPolicy
