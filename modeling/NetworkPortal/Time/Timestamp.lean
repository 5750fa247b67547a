import NetworkPortal.Text.Basic
import NetworkPortal.Time.Calendar

/-! # Timestamps

The date and time of RFC 3339, such as `2024-02-29T12:30:00.5+01:00`, and the instant it names.
-/
namespace NetworkPortal.Time

/-- A point in time: days since 1970-01-01, the second of that day, and nanoseconds. During a leap
second the nanoseconds run on past a full second. -/
structure Instant where
  day : Int
  second : Int
  nanos : Int
  deriving DecidableEq

namespace Instant

def ofUnix (seconds : Int) (nanos : Int) : Instant :=
  ⟨seconds.fdiv 86400, seconds.fmod 86400, nanos⟩

/-- Nanoseconds from `earlier` to `later`. A leap second that lies between them within the clock
time of the day counts as a second of its own. -/
def nanosBetween (earlier later : Instant) : Int :=
  let leap : Int :=
    if later.second > earlier.second then (if earlier.nanos ≥ 1000000000 then 1 else 0)
    else if later.second < earlier.second then (if later.nanos ≥ 1000000000 then -1 else 0)
    else 0
  ((later.day - earlier.day) * 86400 + (later.second - earlier.second) + leap) * 1000000000 +
    (later.nanos - earlier.nanos)

/-- Whole seconds from `earlier` to `later`, rounded toward zero. -/
def secondsBetween (earlier later : Instant) : Int :=
  (nanosBetween earlier later).tdiv 1000000000

end Instant

/-! ## Reading -/

structure Timestamp where
  year : Nat
  month : Nat
  day : Nat
  hour : Nat
  minute : Nat
  second : Nat
  nanos : Nat
  /-- Seconds by which the clock is ahead of universal time. -/
  offset : Int
  deriving DecidableEq

namespace Timestamp

def digit? (c : Char) : Option Nat := if c.isDigit then some (Text.digitValue c) else none

def number? : Nat → Nat → List Char → Option (Nat × List Char)
  | 0, value, rest => some (value, rest)
  | count + 1, value, c :: rest =>
    match digit? c with
    | some d => number? count (10 * value + d) rest
    | none => none
  | _ + 1, _, [] => none

def expect? (c : Char) : List Char → Option (List Char)
  | d :: rest => if d = c then some rest else none
  | [] => none

/-- The fraction of a second in nanoseconds; digits after the ninth are read and dropped. -/
def fraction? : List Char → Option (Nat × List Char)
  | '.' :: rest =>
    let digits := rest.takeWhile Char.isDigit
    if digits.isEmpty then none
    else
      some (Text.ofDigits (digits.take 9) * Nat.pow 10 (9 - digits.length),
        rest.dropWhile Char.isDigit)
  | rest => some (0, rest)

/-- The offset at the end of a timestamp. The minus sign has two spellings. -/
def offset? : List Char → Option Int
  | ['Z'] => some 0
  | ['z'] => some 0
  | sign :: rest => do
    let factor : Int ← if sign = '+' then some 1
      else if sign = '-' || sign = '\u2212' then some (-1) else none
    let (hours, rest) ← number? 2 0 rest
    let rest ← expect? ':' rest
    let (minutes, rest) ← number? 2 0 rest
    if hours < 24 && minutes < 60 && rest.isEmpty then
      some (factor * ((hours * 60 + minutes) * 60 : Nat))
    else none
  | [] => none

/-- The fields are in range and the date is in the calendar. The second may be a leap second. -/
def isValid (t : Timestamp) : Bool :=
  1 ≤ t.month && t.month ≤ 12 && 1 ≤ t.day && t.day ≤ daysInMonth t.year t.month &&
    t.hour < 24 && t.minute < 60 && t.second ≤ 60

def ofChars? (text : List Char) : Option Timestamp := do
  let (year, rest) ← number? 4 0 text
  let rest ← expect? '-' rest
  let (month, rest) ← number? 2 0 rest
  let rest ← expect? '-' rest
  let (day, rest) ← number? 2 0 rest
  let rest ← match rest with
    | c :: rest => if c = 'T' || c = 't' || c = ' ' then some rest else none
    | [] => none
  let (hour, rest) ← number? 2 0 rest
  let rest ← expect? ':' rest
  let (minute, rest) ← number? 2 0 rest
  let rest ← expect? ':' rest
  let (second, rest) ← number? 2 0 rest
  let (nanos, rest) ← fraction? rest
  let offset ← offset? rest
  let t : Timestamp := ⟨year, month, day, hour, minute, second, nanos, offset⟩
  if t.isValid then some t else none

def read? (text : String) : Option Timestamp := ofChars? text.toList

/-- The instant that a timestamp names. Second 60 is kept as second 59 and a full second more. -/
def instant (t : Timestamp) : Instant :=
  let second := min t.second 59
  let nanos := if t.second = 60 then t.nanos + 1000000000 else t.nanos
  let clock : Int := ((t.hour * 60 + t.minute) * 60 + second : Nat)
  .ofUnix (dayNumber t.year t.month t.day * 86400 + clock - t.offset) nanos

end Timestamp

end NetworkPortal.Time
