import NetworkPortal.Decimal.Binary64
import NetworkPortal.Text.Basic
import NetworkPortal.Text.Percent
import NetworkPortal.Time.Calendar
import NetworkPortal.Toml.Value

/-! # Numbers, truth values, dates and times

Each reader takes the longest beginning of a text that is in its form and returns the rest. Digits
may be grouped by single underscores.
-/
namespace NetworkPortal.Toml.Scalar

open Text.Percent (hexValue?)

/-- Further digits, each alone or after an underscore. -/
def moreDigits (isDigit : Char → Bool) : List Char → List Char × List Char
  | [] => ([], [])
  | [c] => if isDigit c then ([c], []) else ([], [c])
  | c :: d :: rest =>
    if isDigit c then
      let (digits, after) := moreDigits isDigit (d :: rest)
      (c :: digits, after)
    else if c = '_' && isDigit d then
      let (digits, after) := moreDigits isDigit rest
      (d :: digits, after)
    else ([], c :: d :: rest)

def digits? (isDigit : Char → Bool) : List Char → Option (List Char × List Char)
  | [] => none
  | c :: rest =>
    if isDigit c then
      let (digits, after) := moreDigits isDigit rest
      some (c :: digits, after)
    else none

/-- A sign, if there is one: whether it is a minus. -/
def sign : List Char → Bool × List Char
  | '-' :: rest => (true, rest)
  | '+' :: rest => (false, rest)
  | text => (false, text)

/-- Decimal digits of which the first is no zero unless it is the only one. -/
def whole? : List Char → Option (List Char × List Char)
  | '0' :: rest => some (['0'], rest)
  | text => digits? Char.isDigit text

def ofDigits (base : Nat) (digits : List Char) : Nat :=
  digits.foldl (fun n c => base * n + (hexValue? c).getD 0) 0

def fits (value : Int) : Bool := -(Nat.pow 2 63 : Int) ≤ value && value < (Nat.pow 2 63 : Int)

def checked? (value : Int) (rest : List Char) : Option (Value × List Char) :=
  if fits value then some (.integer (.ofInt value), rest) else none

def based? (base : Nat) (text : List Char) : Option (Value × List Char) :=
  match digits? (fun c => (hexValue? c).any (· < base)) text with
  | some (digits, rest) => checked? (ofDigits base digits) rest
  | none => none

/-- An integer of 64 bits, in base ten with a sign or in another base without. -/
def integer? : List Char → Option (Value × List Char)
  | '0' :: 'x' :: rest => based? 16 rest
  | '0' :: 'o' :: rest => based? 8 rest
  | '0' :: 'b' :: rest => based? 2 rest
  | text =>
    let (negative, body) := sign text
    match whole? body with
    | some (digits, rest) =>
      let n : Int := ofDigits 10 digits
      checked? (if negative then -n else n) rest
    | none => none

def exponent? : List Char → Option (Int × List Char)
  | c :: rest =>
    if c = 'e' || c = 'E' then
      let (negative, body) := sign rest
      match digits? Char.isDigit body with
      | some (digits, after) =>
        let n : Int := ofDigits 10 digits
        some (if negative then -n else n, after)
      | none => none
    else none
  | [] => none

def fraction? : List Char → Option (List Char × List Char)
  | '.' :: rest => digits? Char.isDigit rest
  | _ => none

def lexeme (text rest : List Char) : String := .ofList (text.take (text.length - rest.length))

/-- A real number: digits with a fraction, an exponent, or both. One too large for a binary64
number is refused unless it is negative. -/
def decimal? (text : List Char) : Option (Value × List Char) :=
  let (negative, body) := sign text
  match whole? body with
  | none => none
  | some (digits, after) =>
    let parts : Option (List Char × Int × List Char) :=
      match fraction? after with
      | some (fraction, after) =>
        match exponent? after with
        | some (e, after) => some (fraction, e, after)
        | none => some (fraction, 0, after)
      | none => (exponent? after).map fun (e, after) => ([], e, after)
    match parts with
    | none => none
    | some (fraction, e, after) =>
      let n := ofDigits 10 (digits ++ fraction)
      if negative || (Decimal.Binary64.nearest? false n (e - fraction.length)).isSome then
        some (.real (lexeme text after), after)
      else none

def special? (text : List Char) : Option (Value × List Char) :=
  match (sign text).2 with
  | 'i' :: 'n' :: 'f' :: rest => some (.real (lexeme text rest), rest)
  | 'n' :: 'a' :: 'n' :: rest => some (.real (lexeme text rest), rest)
  | _ => none

def boolean? : List Char → Option (Value × List Char)
  | 't' :: 'r' :: 'u' :: 'e' :: rest => some (.boolean true, rest)
  | 'f' :: 'a' :: 'l' :: 's' :: 'e' :: rest => some (.boolean false, rest)
  | _ => none

/-! ## Dates and times -/

def two? (limit : Nat) : List Char → Option (Nat × List Char)
  | a :: b :: rest =>
    if a.isDigit && b.isDigit then
      let n := Text.ofDigits [a, b]
      if n ≤ limit then some (n, rest) else none
    else none
  | _ => none

def char? (c : Char) : List Char → Option (List Char)
  | d :: rest => if d = c then some rest else none
  | [] => none

def date? (text : List Char) : Option (List Char) := do
  let (century, rest) ← two? 99 text
  let (year, rest) ← two? 99 rest
  let rest ← char? '-' rest
  let (month, rest) ← two? 12 rest
  let rest ← char? '-' rest
  let (day, rest) ← two? (Time.daysInMonth (100 * century + year) month) rest
  if month = 0 || day = 0 then none else some rest

/-- What follows a time of day, of which the last minute may have one second more. -/
def time? (text : List Char) : Option (List Char) := do
  let (_, rest) ← two? 23 text
  let rest ← char? ':' rest
  let (_, rest) ← two? 59 rest
  let rest ← char? ':' rest
  let (_, rest) ← two? 60 rest
  match rest with
  | '.' :: c :: more =>
    if c.isDigit then some (more.dropWhile Char.isDigit) else none
  | '.' :: [] => none
  | rest => some rest

/-- What follows an offset from universal time, or the text itself if none comes. -/
def offset (text : List Char) : List Char :=
  match text with
  | 'Z' :: rest => rest
  | 'z' :: rest => rest
  | c :: rest =>
    if c = '+' || c = '-' then
      ((two? 23 rest).bind fun (_, rest) =>
        (char? ':' rest).bind fun rest => (two? 59 rest).map (·.2)).getD (c :: rest)
    else c :: rest
  | [] => []

def moment? (text : List Char) : Option (Value × List Char) :=
  let rest? :=
    match date? text with
    | some (c :: rest) =>
      if c = 'T' || c = 't' || c = ' ' then
        match time? rest with
        | some after => some (offset after)
        | none => some (c :: rest)
      else some (c :: rest)
    | some [] => some []
    | none => time? text
  rest?.map fun rest => (.moment (lexeme text rest), rest)

def number? (text : List Char) : Option (Value × List Char) :=
  (((moment? text).or (decimal? text)).or (special? text)).or (integer? text)

end NetworkPortal.Toml.Scalar
