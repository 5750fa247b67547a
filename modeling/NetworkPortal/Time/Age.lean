import NetworkPortal.Time.Timestamp

/-! # Ages

How long ago something happened, in the largest of four units that fits.
-/
namespace NetworkPortal.Time

inductive AgeUnit where
  | second
  | minute
  | hour
  | day
  deriving DecidableEq

namespace AgeUnit

def seconds : AgeUnit → Nat
  | .second => 1
  | .minute => 60
  | .hour => 3600
  | .day => 86400

def name : AgeUnit → String
  | .second => "second"
  | .minute => "minute"
  | .hour => "hour"
  | .day => "day"

end AgeUnit

structure Age where
  count : Nat
  unit : AgeUnit
  deriving DecidableEq

namespace Age

def ofSeconds (seconds : Nat) : Age :=
  let unit : AgeUnit :=
    if seconds < 60 then .second
    else if seconds < 3600 then .minute
    else if seconds < 86400 then .hour
    else .day
  ⟨seconds / unit.seconds, unit⟩

def text (age : Age) : String :=
  toString age.count ++ " " ++ age.unit.name ++ (if age.count = 1 then "" else "s")

/-- The age of a timestamp; zero for a timestamp in the future. -/
def of (t : Timestamp) (now : Instant) : Age :=
  ofSeconds (Instant.secondsBetween t.instant now).toNat

end Age

def ago? (timestamp : String) (now : Instant) : Option String :=
  (Timestamp.read? timestamp).map fun t => (Age.of t now).text

end NetworkPortal.Time
