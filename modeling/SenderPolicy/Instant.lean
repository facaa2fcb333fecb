import SenderPolicy.Numeral.Fixed

/-!
# Moments in time

A moment of the calendar in universal time, and the form in which reports show it. The fraction of
a second is shown only if there is one. The form tells the moment (`Instant.render_inj`).
-/

namespace SenderPolicy

/-- A moment of the calendar in universal time. -/
structure Instant where
  /-- The year. -/
  year : Nat
  /-- The month of the year, from 1. -/
  month : Nat
  /-- The day of the month, from 1. -/
  day : Nat
  /-- The hour of the day. -/
  hour : Nat
  /-- The minute of the hour. -/
  minute : Nat
  /-- The second of the minute. -/
  second : Nat
  /-- The microseconds after the second. -/
  microsecond : Nat
  deriving DecidableEq, Repr

/-- The text of a moment. -/
def Instant.render (t : Instant) : String :=
  let fraction := if t.microsecond = 0 then [] else '.' :: paddedDigits 6 t.microsecond
  String.ofList <|
    paddedDigits 4 t.year ++ '-' :: paddedDigits 2 t.month ++ '-' :: paddedDigits 2 t.day ++
      'T' :: paddedDigits 2 t.hour ++ ':' :: paddedDigits 2 t.minute ++
      ':' :: paddedDigits 2 t.second ++ fraction ++ "+00:00".toList

/-- Every moment has its own text. -/
theorem Instant.render_inj {t t' : Instant} : t.render = t'.render ↔ t = t' := by
  refine ⟨fun h => ?_, congrArg render⟩
  have hchars := congrArg String.toList h
  simp only [render, String.toList_ofList, List.append_assoc, List.cons_append,
    paddedDigits_append_cons_inj (show '-'.isDigit = false from rfl),
    paddedDigits_append_cons_inj (show 'T'.isDigit = false from rfl),
    paddedDigits_append_cons_inj (show ':'.isDigit = false from rfl)] at hchars
  obtain ⟨hyear, hmonth, hday, hhour, hminute, hrest⟩ := hchars
  -- Behind the seconds stands a point or the sign of the offset.
  have hfraction : ∀ n : Nat, ((if n = 0 then [] else '.' :: paddedDigits 6 n) ++
      "+00:00".toList).takeWhile Char.isDigit = [] := by
    intro n
    split <;> rfl
  obtain ⟨hsecond, hrest⟩ := (paddedDigits_append_inj (hfraction _) (hfraction _)).1 hrest
  have hmicrosecond : t.microsecond = t'.microsecond := by
    have hshown := List.append_cancel_right hrest
    split at hshown <;> split at hshown
    · omega
    · cases hshown
    · cases hshown
    · exact paddedDigits_inj.1 (List.cons.inj hshown).2
  cases t
  cases t'
  simp_all

end SenderPolicy
