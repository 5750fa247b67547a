import NetworkPortal.Decimal.Scaled
import NetworkPortal.Json.Basic
import NetworkPortal.Json.Syntax
import NetworkPortal.Text.Basic

/-! # Reading JSON

What the lexemes of a document mean: escapes become characters, numerals numbers, and a repeated
key keeps its first place with its last value.
-/
namespace NetworkPortal.Json

open Text (ofDigits)

def isHighSurrogate (n : Nat) : Bool := 0xD800 ≤ n && n < 0xDC00

def isLowSurrogate (n : Nat) : Bool := 0xDC00 ≤ n && n < 0xE000

/-- The characters of a literal. Half of a surrogate pair is none. -/
def unescape? : List Piece → Option (List Char)
  | [] => some []
  | .char c :: rest => (unescape? rest).map (c :: ·)
  | .code high :: .code low :: rest =>
    if isHighSurrogate high && isLowSurrogate low then
      (unescape? rest).map (.ofNat (0x10000 + 0x400 * (high - 0xD800) + (low - 0xDC00)) :: ·)
    else if isHighSurrogate high || isLowSurrogate high then none
    else (unescape? (.code low :: rest)).map (.ofNat high :: ·)
  | .code n :: rest =>
    if isHighSurrogate n || isLowSurrogate n then none
    else (unescape? rest).map (.ofNat n :: ·)

def text? (pieces : List Piece) : Option String := (unescape? pieces).map .ofList

/-- Integers of 64 bits with or without a sign stay integers; negative zero does not. -/
def Numeral.integer? (numeral : Numeral) : Option Int :=
  match numeral.fraction, numeral.exponent with
  | none, none =>
    let n := ofDigits numeral.whole
    if numeral.negative then
      if 0 < n && n ≤ Nat.pow 2 63 then some (-(n : Int)) else none
    else if n < Nat.pow 2 64 then some n else none
  | _, _ => none

def Numeral.real? (numeral : Numeral) : Option Decimal.Binary64 :=
  let power : Int := match numeral.exponent with
    | some (true, digits) => -(ofDigits digits : Int)
    | some (false, digits) => ofDigits digits
    | none => 0
  Decimal.ofPositional? numeral.negative numeral.whole (numeral.fraction.getD []) power

def Numeral.number? (numeral : Numeral) : Option Number :=
  match numeral.integer? with
  | some value => some (.integer value)
  | none => numeral.real?.map .real

mutual

/-- The value of a tree in which fewer than `room` arrays and objects lie in each other. -/
def ofSyntax? (room : Nat) : Syntax → Option Json
  | .null => some .null
  | .boolean value => some (.boolean value)
  | .number numeral => numeral.number?.map .number
  | .string pieces => (text? pieces).map .string
  | .array items => match room with
    | room + 2 => (items? (room + 1) items).map .array
    | _ => none
  | .object members => match room with
    | room + 2 => (members? (room + 1) members).map fun pairs => .object (Keyed.ofList pairs)
    | _ => none

def items? (room : Nat) : List Syntax → Option (List Json)
  | [] => some []
  | item :: rest =>
    match ofSyntax? room item, items? room rest with
    | some value, some values => some (value :: values)
    | _, _ => none

def members? (room : Nat) : List (List Piece × Syntax) → Option (List (String × Json))
  | [] => some []
  | (key, item) :: rest =>
    match text? key, ofSyntax? room item, members? room rest with
    | some key, some value, some pairs => some ((key, value) :: pairs)
    | _, _, _ => none

end

def nestingRoom : Nat := 128

def read? (text : String) : Option Json :=
  (Syntax.read? text).bind (ofSyntax? nestingRoom)

end NetworkPortal.Json
