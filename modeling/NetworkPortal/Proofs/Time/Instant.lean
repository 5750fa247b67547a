import Mathlib.Data.Int.Notation
import Mathlib.Data.Nat.Notation
import Mathlib.Tactic.SplitIfs
import NetworkPortal.Time.Age

/-! # Instants on one line

The days of the calendar are numbered one after the other, so every instant has a position on one
line of nanoseconds. The time between two instants is the distance between their positions, apart
from leap seconds inside a day.
-/
namespace NetworkPortal.Time

/-! ## The calendar -/

theorem isLeapYear_iff (year : ℕ) :
    isLeapYear year = true ↔ year % 4 = 0 ∧ (year % 100 ≠ 0 ∨ year % 400 = 0) := by
  simp [isLeapYear]

theorem daysBeforeMonth_succ {year month : ℕ} (h : 1 ≤ month) :
    daysBeforeMonth year (month + 1) = daysBeforeMonth year month + daysInMonth year month := by
  obtain ⟨before, rfl⟩ := Nat.exists_eq_add_of_le' h
  simp only [daysBeforeMonth, Nat.add_sub_cancel]
  rw [List.range_succ, List.foldl_append]
  rfl

theorem daysBeforeYear_succ (year : ℕ) :
    daysBeforeYear (year + 1) = daysBeforeYear year + daysBeforeMonth year 13 := by
  have hmonths : List.range (13 - 1) = [0, 1, 2, 3, 4, 5, 6, 7, 8, 9, 10, 11] := rfl
  have hdays : daysBeforeMonth year 13 = if isLeapYear year then 366 else 365 := by
    rw [daysBeforeMonth, hmonths]
    simp only [List.foldl_cons, List.foldl_nil, daysInMonth]
    split <;> rfl
  have hfourth : (year + 1 + 3) / 4 = (year + 3) / 4 + if year % 4 = 0 then 1 else 0 := by
    split <;> omega
  have hcentury : (year + 1 + 99) / 100 = (year + 99) / 100 + if year % 100 = 0 then 1 else 0 := by
    split <;> omega
  have hfourthCentury :
      (year + 1 + 399) / 400 = (year + 399) / 400 + if year % 400 = 0 then 1 else 0 := by
    split <;> omega
  have hless : (year + 99) / 100 ≤ (year + 3) / 4 := by omega
  have hcenturies : year % 400 = 0 → year % 100 = 0 := by omega
  have hfourths : year % 100 = 0 → year % 4 = 0 := by omega
  rw [hdays, daysBeforeYear, daysBeforeYear, hfourth, hcentury, hfourthCentury]
  simp only [isLeapYear_iff]
  split_ifs <;> omega

def nextDate (year month day : ℕ) : ℕ × ℕ × ℕ :=
  if day < daysInMonth year month then (year, month, day + 1)
  else if month < 12 then (year, month + 1, 1)
  else (year + 1, 1, 1)

theorem dayNumber_nextDate {year month day : ℕ} (hmonth : 1 ≤ month ∧ month ≤ 12)
    (hday : 1 ≤ day ∧ day ≤ daysInMonth year month) :
    dayNumber (nextDate year month day).1 (nextDate year month day).2.1
      (nextDate year month day).2.2 = dayNumber year month day + 1 := by
  unfold nextDate
  split
  · simp only [dayNumber]
    omega
  · have hlast : day = daysInMonth year month := by omega
    have hmonths : daysBeforeMonth year (month + 1) =
        daysBeforeMonth year month + daysInMonth year month := daysBeforeMonth_succ hmonth.1
    split
    · simp only [dayNumber]
      omega
    · have hdecember : month = 12 := by omega
      have hnew : daysBeforeMonth (year + 1) 1 = 0 := rfl
      have hyear : daysBeforeYear (year + 1) =
          daysBeforeYear year + (daysBeforeMonth year month + daysInMonth year month) := by
        rw [daysBeforeYear_succ, ← hmonths, hdecember]
      simp only [dayNumber, hnew, hyear, ← hlast]
      omega

example : dayNumber 1970 1 1 = 0 := by decide

/-! ## Positions -/

namespace Instant

def position (instant : Instant) : ℤ :=
  (instant.day * 86400 + instant.second) * 1000000000 + instant.nanos

/-- The instant is in no leap second, or in one at the end of its day. -/
def LeapEndsDay (instant : Instant) : Prop := instant.nanos < 1000000000 ∨ instant.second = 86399

theorem ofUnix_eq (seconds nanos : ℤ) :
    ofUnix seconds nanos = ⟨seconds / 86400, seconds % 86400, nanos⟩ := by
  rw [ofUnix, Int.fdiv_eq_ediv_of_nonneg _ (by decide), Int.fmod_eq_emod_of_nonneg _ (by decide)]

/-- What is measured is the distance, unless the later instant is in a leap second inside a day. -/
theorem nanosBetween_eq {earlier later : Instant} (hearlier : earlier.nanos < 1000000000)
    (hlater : later.nanos < 1000000000 ∨ earlier.second ≤ later.second) :
    nanosBetween earlier later = later.position - earlier.position := by
  unfold nanosBetween position
  dsimp only
  split_ifs <;> omega

end Instant

namespace Timestamp

def unix (t : Timestamp) : ℤ :=
  dayNumber t.year t.month t.day * 86400 + ((t.hour * 60 + t.minute) * 60 + t.second : ℕ) - t.offset

def position (t : Timestamp) : ℤ := t.unix * 1000000000 + t.nanos

variable {t t' : Timestamp} {now : Instant}

theorem instant_eq (h : t.second < 60) :
    t.instant = ⟨t.unix / 86400, t.unix % 86400, t.nanos⟩ := by
  rw [instant, Instant.ofUnix_eq, if_neg (by omega), Nat.min_eq_left (by omega)]
  rfl

theorem position_instant (h : t.second < 60) : t.instant.position = t.position := by
  rw [instant_eq h, Instant.position, position]
  dsimp only
  omega

theorem instant_eq_of_position (h : t.second < 60) (h' : t'.second < 60)
    (hnanos : t.nanos < 1000000000) (hnanos' : t'.nanos < 1000000000)
    (hposition : t.position = t'.position) : t.instant = t'.instant := by
  unfold position at hposition
  have hunix : t.unix = t'.unix := by omega
  have hsame : t.nanos = t'.nanos := by omega
  rw [instant_eq h, instant_eq h', hunix, hsame]

/-- The whole seconds that have passed since a timestamp, none for one in the future. -/
def elapsed (t : Timestamp) (now : Instant) : ℕ := (Instant.secondsBetween t.instant now).toNat

/-- The time measured since a timestamp is the distance of the two instants. -/
def IsMeasuredAt (t : Timestamp) (now : Instant) : Prop :=
  Instant.nanosBetween t.instant now = now.position - t.position

theorem isMeasuredAt_of_leapEndsDay (h : t.second < 60) (hnanos : t.nanos < 1000000000)
    (hnow : now.LeapEndsDay) : t.IsMeasuredAt now := by
  rw [IsMeasuredAt, Instant.nanosBetween_eq, position_instant h]
  · rw [instant_eq h]
    dsimp only
    omega
  · refine hnow.imp_right fun hlast => ?_
    rw [instant_eq h, hlast]
    dsimp only
    omega

theorem elapsed_eq (h : t.IsMeasuredAt now) :
    t.elapsed now = ((now.position - t.position) / 1000000000).toNat := by
  -- Rounding toward zero and rounding down differ below zero only.
  rw [elapsed, Instant.secondsBetween, h, Int.tdiv_eq_ediv, Int.sign_eq_one_of_pos (by decide)]
  split <;> omega

theorem elapsed_le (h : t.IsMeasuredAt now) (h' : t'.IsMeasuredAt now)
    (hearlier : t'.position ≤ t.position) : t.elapsed now ≤ t'.elapsed now := by
  rw [elapsed_eq h, elapsed_eq h']
  omega

theorem elapsed_of_position (h : t.second < 60) (h' : t'.second < 60) (hnanos : t.nanos < 1000000000)
    (hnanos' : t'.nanos < 1000000000) (hposition : t'.position = t.position) :
    t'.elapsed now = t.elapsed now := by
  rw [elapsed, elapsed, instant_eq_of_position h' h hnanos' hnanos hposition]

end Timestamp

end NetworkPortal.Time
