/-! # Percent-encoding

A byte is written as a percent sign and two hexadecimal digits unless it is an unreserved
character of a URL. Reading gives bytes back, and a percent sign that two hexadecimal digits do
not follow stands for itself.
-/
namespace NetworkPortal.Text.Percent

/-- ASCII letters, digits and `-`, `_`, `.`, `~`. -/
def isUnreserved (b : UInt8) : Bool :=
  (65 ≤ b && b ≤ 90) || (97 ≤ b && b ≤ 122) || (48 ≤ b && b ≤ 57) ||
    b == 45 || b == 95 || b == 46 || b == 126

def hexDigit (n : Nat) : Char :=
  if n < 10 then .ofNat (48 + n) else .ofNat (55 + n)

def hexValue? (c : Char) : Option Nat :=
  let n := c.toNat
  if 48 ≤ n && n ≤ 57 then some (n - 48)
  else if 65 ≤ n && n ≤ 70 then some (n - 55)
  else if 97 ≤ n && n ≤ 102 then some (n - 87)
  else none

def encodeByte (b : UInt8) : List Char :=
  if isUnreserved b then [.ofNat b.toNat]
  else ['%', hexDigit (b.toNat / 16), hexDigit (b.toNat % 16)]

def encode (text : String) : String :=
  .ofList ((text.toList.flatMap String.utf8EncodeChar).flatMap encodeByte)

def byte? (high low : Char) : Option UInt8 :=
  match hexValue? high, hexValue? low with
  | some a, some b => some (.ofNat (16 * a + b))
  | _, _ => none

/-- The bytes of a text whose percent-encoded bytes are read back. -/
def bytes : List Char → List UInt8
  | c :: a :: b :: rest =>
    match if c = '%' then byte? a b else none with
    | some byte => byte :: bytes rest
    | none => String.utf8EncodeChar c ++ bytes (a :: b :: rest)
  | c :: rest => String.utf8EncodeChar c ++ bytes rest
  | [] => []

/-- The text that `text` encodes, if its bytes are UTF-8. -/
def decode? (text : String) : Option String :=
  String.fromUTF8? ⟨(bytes text.toList).toArray⟩

end NetworkPortal.Text.Percent
