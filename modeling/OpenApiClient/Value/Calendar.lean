/-
The calendar.

Not every triple of numbers is a day, and not every triple is a time of day.  Texts name
dates by numbers, and a reader has to know which of them there are.
-/

import OpenApiClient.Value.Basic

set_option autoImplicit false

namespace OpenApiClient

/-- How many days a month has. -/
def daysInMonth (year month : Nat) : Nat :=
  if month = 2 then
    if year % 4 = 0 ∧ (year % 100 ≠ 0 ∨ year % 400 = 0) then 29 else 28
  else if [4, 6, 9, 11].contains month then 30
  else 31

/-- The day with the given numbers, if there is one. -/
def Date.of? (year month day : Nat) : Option Date :=
  if 1 ≤ year ∧ year ≤ 9999 ∧ 1 ≤ month ∧ month ≤ 12 ∧ 1 ≤ day ∧ day ≤ daysInMonth year month
  then some ⟨year, month, day⟩
  else none

/-- The time of day with the given numbers, if there is one. -/
def ClockTime.of? (hour minute second micro : Nat) : Option ClockTime :=
  if hour ≤ 23 ∧ minute ≤ 59 ∧ second ≤ 59 ∧ micro ≤ 999999
  then some ⟨hour, minute, second, micro⟩
  else none

end OpenApiClient
