import SenderPolicy.Http.History

/-!
# Requests that are held to a rate limit

A request is held to the limit if its path leads to one of the limited routes, which are the first
of all (`isLimited_destination_iff`). So these requests are told by their path and method
(`Service.isHeld_iff`), and those for the state of the service are none of them
(`Service.isHeld_of_path_eq_health`).
-/

namespace SenderPolicy.Http

/-! ## Limited routes -/

/-- The route for reports on published records comes before all others. -/
theorem destination_eq_published {base path : Text} {m : Method} {twoWay : Bool}
    (h : (Route.covers base .published path && Route.admits .published m && !twoWay) = true) :
    destination base m twoWay path = .route .published := by
  unfold destination
  simp only [Route.all, List.find?_cons, h]

/-- A path leads to a limited route if and only if one of the limited routes covers it and admits
the method. -/
theorem isLimited_destination_iff {base path : Text} {m : Method} {twoWay : Bool} :
    (∃ route, destination base m twoWay path = .route route ∧ route.isLimited = true) ↔
      ∃ route : Route, route.isLimited = true ∧
        (route.covers base path && route.admits m && !twoWay) = true := by
  constructor
  · rintro ⟨route, h, hlimited⟩
    exact ⟨route, hlimited, fits_of_destination h⟩
  · rintro ⟨route, hlimited, hfits⟩
    -- The limited routes are the first of all.
    cases hp : (Route.covers base .published path && Route.admits .published m && !twoWay) with
    | true => exact ⟨.published, destination_eq_published hp, rfl⟩
    | false =>
      cases route with
      | published =>
        rw [hp] at hfits
        cases hfits
      | given =>
        refine ⟨.given, ?_, rfl⟩
        unfold destination
        simp only [Route.all, List.find?_cons, hp, hfits]
      | health | asset => cases hlimited

/-- Something holds for a limited route if and only if it does for that of reports on published or
on given records. -/
theorem exists_isLimited_iff {p : Route → Prop} :
    (∃ route : Route, route.isLimited = true ∧ p route) ↔ p .published ∨ p .given := by
  constructor
  · rintro ⟨_ | _ | _ | _, hlimited, hp⟩
    · cases hlimited
    · exact .inl hp
    · exact .inr hp
    · cases hlimited
  · rintro (hp | hp)
    · exact ⟨_, rfl, hp⟩
    · exact ⟨_, rfl, hp⟩

/-! ## Limited paths -/

/-- The last character stays the last one when slashes are merged. -/
theorem getLast?_mergeSlashes (s : Text) : (mergeSlashes s).getLast? = s.getLast? := by
  induction s with
  | nil => rfl
  | cons c s ih =>
    rw [mergeSlashes]
    split
    · rename_i h
      cases s with
      | nil => simp at h
      | cons d s => rw [ih, List.getLast?_cons_cons]
    · rw [List.getLast?_cons, List.getLast?_cons, ih]

namespace Service

variable {τ : Type} {s : Service τ} {r : Request}

/-- The requests that are held to the limit are those to the two paths of reports, with the methods
that are admitted there. -/
theorem isHeld_iff : s.isHeld r = true ↔
    r.isHostWellFormed = true ∧ r.isTwoWay = false ∧
      ((r.path = mergeSlashes (s.base ++ "/spf") ∧ r.method ≠ .other) ∨
        (r.path = mergeSlashes (s.base ++ "/spf/record") ∧
          (r.method = .post ∨ r.method = .options))) := by
  have hdestination : s.isHeld r = true ↔ r.isHostWellFormed = true ∧
      ∃ route, destination s.base r.method r.isTwoWay r.path = .route route ∧
        route.isLimited = true := by
    rw [isHeld, Bool.and_eq_true]
    cases destination s.base r.method r.isTwoWay r.path <;> simp
  have hpublished : Route.published.admits r.method = true ↔ r.method ≠ .other := by
    cases r.method <;> decide
  have hgiven : Route.given.admits r.method = true ↔ r.method = .post ∨ r.method = .options := by
    cases r.method <;> decide
  have hcovers : ∀ route : Route, route.isLimited = true →
      (route.covers s.base r.path = true ↔ r.path = mergeSlashes (route.pattern s.base)) := by
    rintro (_ | _ | _ | _) hlimited
    · cases hlimited
    · exact decide_eq_true_iff
    · exact decide_eq_true_iff
    · cases hlimited
  rw [hdestination, isLimited_destination_iff, exists_isLimited_iff]
  simp only [Bool.and_eq_true, hpublished, hgiven, hcovers .published rfl, hcovers .given rfl,
    Bool.not_eq_true']
  rw [← or_and_right]
  exact and_congr_right fun _ => and_comm

/-- A request for the state of the service is not held to the limit. -/
theorem isHeld_of_path_eq_health (h : r.path = "/health") : s.isHeld r = false := by
  -- The path of such a request ends otherwise than those of the limited routes.
  have hends : ∀ (path : Text) (c : CodePoint), path.getLast? = some c → c ≠ 'h' →
      r.path ≠ mergeSlashes (s.base ++ path) := by
    intro path c hlast hc heq
    have hmerged := congrArg List.getLast? (h.symm.trans heq)
    rw [getLast?_mergeSlashes, List.getLast?_append, hlast] at hmerged
    exact hc (Option.some.inj hmerged).symm
  rw [← Bool.not_eq_true, isHeld_iff]
  rintro ⟨-, -, ⟨hpath, -⟩ | ⟨hpath, -⟩⟩
  · exact hends "/spf" 'f' (by decide) (by decide) hpath
  · exact hends "/spf/record" 'd' (by decide) (by decide) hpath

end Service

end SenderPolicy.Http
