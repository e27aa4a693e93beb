/-!
# Instants

A `Moment` is an instant in Coordinated Universal Time: whole seconds since the start of 1970 and
nanoseconds within the second.  In a leap second the nanoseconds run on past one thousand million,
so the order is the one of the pairs.

* `Moment.lt_iff` and `Moment.lt_trans`: the order of instants;
* `Moment.dayNumber` and `Moment.dateOfDay` turn a date of the Gregorian calendar into a number of
  days and back.
-/

namespace TenantGuard

/-- **An instant**, by whole seconds since 1970 and nanoseconds on top. -/
structure Moment where
  seconds : Int
  nanos : Nat
  deriving DecidableEq, Repr, Inhabited

namespace Moment

/-- Earlier than. -/
def Before (a b : Moment) : Prop :=
  a.seconds < b.seconds ∨ (a.seconds = b.seconds ∧ a.nanos < b.nanos)

instance : LT Moment := ⟨Before⟩

instance (a b : Moment) : Decidable (a < b) :=
  inferInstanceAs (Decidable (a.seconds < b.seconds ∨ (a.seconds = b.seconds ∧ a.nanos < b.nanos)))

theorem lt_iff {a b : Moment} :
    a < b ↔ a.seconds < b.seconds ∨ (a.seconds = b.seconds ∧ a.nanos < b.nanos) := Iff.rfl

theorem lt_trans {a b c : Moment} (h : a < b) (h' : b < c) : a < c := by
  rw [lt_iff] at *; omega

/-! ## The calendar -/

/-- **A date of the Gregorian calendar**, extended to all years. -/
structure Date where
  year : Int
  month : Nat
  day : Nat
  deriving DecidableEq, Repr, Inhabited

def isLeapYear (y : Int) : Bool := y % 4 == 0 && (y % 100 != 0 || y % 400 == 0)

def daysInMonth (y : Int) (m : Nat) : Nat :=
  if m = 2 then (if isLeapYear y then 29 else 28)
  else if m = 4 ∨ m = 6 ∨ m = 9 ∨ m = 11 then 30 else 31

/-- The least and the greatest year of an instant. -/
def leastYear : Int := -262143

def greatestYear : Int := 262142

def Date.isValid (d : Date) : Bool :=
  leastYear ≤ d.year && d.year ≤ greatestYear && 1 ≤ d.month && d.month ≤ 12 && 1 ≤ d.day &&
    d.day ≤ daysInMonth d.year d.month

/-- Days before the month, counted from the first of March. -/
def daysBeforeMonth (monthFromMarch : Nat) : Nat := (153 * monthFromMarch + 2) / 5

/-- **The number of a date**: days since the first of January 1970. -/
def dayNumber (d : Date) : Int :=
  let y := if d.month ≤ 2 then d.year - 1 else d.year
  let m := (d.month + 9) % 12
  365 * y + y / 4 - y / 100 + y / 400 + daysBeforeMonth m + (d.day : Int) - 1 - 719468

/-- **The date of a day number.** -/
def dateOfDay (n : Int) : Date :=
  let z := n + 719468
  let era := z / 146097
  let doe := (z % 146097).toNat
  let yoe := (doe - doe / 1460 + doe / 36524 - doe / 146096) / 365
  let doy := doe - (365 * yoe + yoe / 4 - yoe / 100)
  let mp := (5 * doy + 2) / 153
  let day := doy - daysBeforeMonth mp + 1
  let month := if mp < 10 then mp + 3 else mp - 9
  let year := (yoe : Int) + 400 * era + (if month ≤ 2 then 1 else 0)
  ⟨year, month, day⟩

/-- The instant at a time of day. -/
def ofDateTime (d : Date) (hour minute second nanos : Nat) : Moment :=
  ⟨dayNumber d * 86400 + (hour * 3600 + minute * 60 + second : Nat), nanos⟩

end Moment

end TenantGuard
