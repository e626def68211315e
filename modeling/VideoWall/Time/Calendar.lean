/-!
# Calendar

Dates of the Gregorian calendar from year 1 to year 9999, and the number of days from one to another.
-/

namespace VideoWall

namespace Calendar

def isLeap (year : Nat) : Bool :=
  year % 4 == 0 && (year % 100 != 0 || year % 400 == 0)

/-- The number of days of a month; zero for what is no month. -/
def daysInMonth (year month : Nat) : Nat :=
  match month with
  | 1 | 3 | 5 | 7 | 8 | 10 | 12 => 31
  | 4 | 6 | 9 | 11 => 30
  | 2 => if isLeap year then 29 else 28
  | _ => 0

/-- The number of days from the start of year 1 to the start of a year. -/
def daysBeforeYear (year : Nat) : Nat :=
  let y := year - 1
  365 * y + y / 4 - y / 100 + y / 400

def daysBeforeMonth (year : Nat) : (month : Nat) → Nat
  | 0 | 1 => 0
  | m + 1 => daysBeforeMonth year m + daysInMonth year m

end Calendar

open Calendar in
structure Date where
  year : Nat
  month : Nat
  day : Nat
  year_pos : 1 ≤ year
  year_le : year ≤ 9999
  day_pos : 1 ≤ day
  day_le : day ≤ daysInMonth year month
deriving DecidableEq, Repr

namespace Date

open Calendar

def of? (year month day : Nat) : Option Date :=
  if h : 1 ≤ year ∧ year ≤ 9999 ∧ 1 ≤ day ∧ day ≤ daysInMonth year month then
    some ⟨year, month, day, h.1, h.2.1, h.2.2.1, h.2.2.2⟩
  else none

def first : Date :=
  ⟨1, 1, 1, by decide, by decide, by decide, by decide⟩

instance : Inhabited Date := ⟨first⟩

/-- The number of days from the first day of the calendar. -/
def toDays (d : Date) : Nat :=
  daysBeforeYear d.year + daysBeforeMonth d.year d.month + (d.day - 1)

/-- The month and the day in it that lie `n` days behind the start of a month. -/
def monthOfDays (year : Nat) : (months : Nat) → (month n : Nat) → Nat × Nat
  | 0, month, n => (month, n + 1)
  | k + 1, month, n =>
    let size := daysInMonth year month
    if n < size then (month, n + 1) else monthOfDays year k (month + 1) (n - size)

/-- The year in which the day lies that is `n` days behind the first day of the calendar: the mean
length of a year gives it up to one. -/
def yearOfDays (n : Nat) : Nat :=
  let guess := n * 400 / 146097 + 1
  if n < daysBeforeYear guess then guess - 1
  else if daysBeforeYear (guess + 1) ≤ n then guess + 1
  else guess

def ofDays? (n : Nat) : Option Date :=
  let year := yearOfDays n
  let (month, day) := monthOfDays year 12 1 (n - daysBeforeYear year)
  of? year month day

theorem month_mem (d : Date) : 1 ≤ d.month ∧ d.month ≤ 12 := by
  have h := d.day_le
  have h1 := d.day_pos
  unfold daysInMonth at h
  split at h <;> omega

theorem day_le_31 (d : Date) : d.day ≤ 31 := by
  have hlength : daysInMonth d.year d.month ≤ 31 := by
    unfold daysInMonth
    split <;> try split
    all_goals omega
  exact Nat.le_trans d.day_le hlength

theorem of?_self (d : Date) : of? d.year d.month d.day = some d := by
  unfold of?
  rw [dif_pos ⟨d.year_pos, d.year_le, d.day_pos, d.day_le⟩]

end Date

end VideoWall
