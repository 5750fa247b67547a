import NetworkPortal.Decimal.Notation
import NetworkPortal.Keyed

/-! # JSON values

An object keeps its members in the order in which their keys first appeared.
-/
namespace NetworkPortal

namespace Json

/-- An integer literal in range stays an integer; every other number is a binary64 number. -/
inductive Number where
  | integer (value : Int)
  | real (value : Decimal.Binary64)
  deriving DecidableEq

/-- Reals are written positionally from `0.00001` up to sixteen digits before the point. -/
def notation64 : Decimal.Notation := ⟨-5, 15⟩

def Number.text : Number → String
  | .integer value => toString value
  | .real value => notation64.write value

end Json

inductive Json where
  | null
  | boolean (value : Bool)
  | number (value : Json.Number)
  | string (text : String)
  | array (items : List Json)
  | object (members : List (String × Json))

namespace Json

def object? : Json → Option (List (String × Json))
  | .object members => some members
  | _ => none

def array? : Json → Option (List Json)
  | .array items => some items
  | _ => none

def string? : Json → Option String
  | .string text => some text
  | _ => none

def get? (key : String) : Json → Option Json
  | .object members => Keyed.get? key members
  | _ => none

end Json

end NetworkPortal
