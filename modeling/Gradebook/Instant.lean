/-
# Gradebook.Instant — points in time and their written form

An `Instant` counts seconds from 1970-01-01T00:00:00Z and nanoseconds within
one. A leap second is the second 59 with a thousand million nanoseconds or more,
so the order of the fields is the order of time.

Dates are those of the proleptic Gregorian calendar: `daysOfDate` counts the days
before a date, `dateOfDays` finds the date, and `text` writes an instant in UTC
with as few groups of three fraction digits as are exact.
-/
import Gradebook.Decimal.Layout

namespace Gradebook

set_option autoImplicit false

structure Instant where
  seconds : Int
  nanoseconds : Nat
  deriving DecidableEq, Repr, Inhabited

namespace Instant

instance : LE Instant where
  le s t := s.seconds < t.seconds ∨ s.seconds = t.seconds ∧ s.nanoseconds ≤ t.nanoseconds

instance (s t : Instant) : Decidable (s ≤ t) :=
  inferInstanceAs (Decidable (_ ∨ _ ∧ _))

theorem le_refl (t : Instant) : t ≤ t := .inr ⟨rfl, Nat.le_refl _⟩

theorem le_trans {s t u : Instant} (h : s ≤ t) (k : t ≤ u) : s ≤ u := by
  rcases h with first | ⟨first, least⟩ <;> rcases k with second | ⟨second, least'⟩
  · exact .inl (Int.lt_trans first second)
  · exact .inl (second ▸ first)
  · exact .inl (first ▸ second)
  · exact .inr ⟨first.trans second, Nat.le_trans least least'⟩

open Gradebook.Decimal (naturalText paddedText)

def isLeapYear (year : Int) : Bool :=
  year % 4 = 0 && (year % 100 ≠ 0 || year % 400 = 0)

def daysInMonth (year : Int) (month : Nat) : Nat :=
  match month with
  | 4 | 6 | 9 | 11 => 30
  | 2 => if isLeapYear year then 29 else 28
  | _ => 31

/-- Days from 1970-01-01 to a date. Years start in March here, so that the leap
day is the last day of its year. -/
def daysOfDate (year : Int) (month day : Nat) : Int :=
  let year := if month ≤ 2 then year - 1 else year
  let era := year.fdiv 400
  let yearOfEra := year - era * 400
  let dayOfYear := (153 * ((month + 9) % 12) + 2) / 5 + day - 1
  let dayOfEra := yearOfEra * 365 + yearOfEra / 4 - yearOfEra / 100 + dayOfYear
  era * 146097 + dayOfEra - 719468

/-- The year, month and day that is `days` after 1970-01-01. -/
def dateOfDays (days : Int) : Int × Nat × Nat :=
  let days := days + 719468
  let era := days.fdiv 146097
  let dayOfEra := (days - era * 146097).toNat
  let yearOfEra := (dayOfEra - dayOfEra / 1460 + dayOfEra / 36524 - dayOfEra / 146096) / 365
  let dayOfYear := dayOfEra - (365 * yearOfEra + yearOfEra / 4 - yearOfEra / 100)
  let shifted := (5 * dayOfYear + 2) / 153
  let day := dayOfYear - (153 * shifted + 2) / 5 + 1
  let month := if shifted < 10 then shifted + 3 else shifted - 9
  let year := (yearOfEra : Int) + era * 400
  (if month ≤ 2 then year + 1 else year, month, day)

/-- The instant of a date and a time of day in UTC. -/
def ofParts (year : Int) (month day hour minute second nanoseconds : Nat) : Instant :=
  ⟨daysOfDate year month day * 86400 + ((hour * 3600 + minute * 60 + second : Nat) : Int),
    nanoseconds⟩

/-- Four digits, or an explicit sign and at least four for years outside them. -/
def yearText (year : Int) : String :=
  if 0 ≤ year ∧ year ≤ 9999 then paddedText 4 year.toNat
  else (if year < 0 then "-" else "+") ++ paddedText 4 year.natAbs

/-- No fraction, or three, six or nine digits, whichever is first exact. -/
def fractionText (nanoseconds : Nat) : String :=
  if nanoseconds = 0 then ""
  else if nanoseconds % 1000000 = 0 then "." ++ paddedText 3 (nanoseconds / 1000000)
  else if nanoseconds % 1000 = 0 then "." ++ paddedText 6 (nanoseconds / 1000)
  else "." ++ paddedText 9 nanoseconds

/-- The date and time of day in UTC, followed by a mark for the zone. -/
def textWithZone (zone : String) (t : Instant) : String :=
  let days := t.seconds.fdiv 86400
  let second := (t.seconds - days * 86400).toNat
  let (year, month, day) := dateOfDays days
  let leap := if 1000000000 ≤ t.nanoseconds then 1 else 0
  yearText year ++ "-" ++ paddedText 2 month ++ "-" ++ paddedText 2 day ++ "T" ++
    paddedText 2 (second / 3600) ++ ":" ++ paddedText 2 (second / 60 % 60) ++ ":" ++
    paddedText 2 (second % 60 + leap) ++ fractionText (t.nanoseconds % 1000000000) ++ zone

/-- The exchanged form, which ends in `Z`. -/
def text (t : Instant) : String := t.textWithZone "Z"

/-- The form with a numeric zone. -/
def textWithOffset (t : Instant) : String := t.textWithZone "+00:00"

end Instant

end Gradebook
