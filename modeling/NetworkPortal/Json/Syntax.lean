import NetworkPortal.Text.Percent

/-! # JSON syntax

The text of a JSON document as a tree of its lexemes. The tree records what was written and not
yet what it means: a number keeps its digits, and a string its escapes, so a document can be well
formed here and still hold a number out of range or half of a surrogate pair.
-/
namespace NetworkPortal.Json

open Text.Percent (hexValue?)

/-- A character of a string literal, or a four-digit escape. -/
inductive Piece where
  | char (c : Char)
  | code (n : Nat)

structure Numeral where
  negative : Bool
  whole : List Char
  fraction : Option (List Char)
  exponent : Option (Bool × List Char)

inductive Syntax where
  | null
  | boolean (value : Bool)
  | number (numeral : Numeral)
  | string (pieces : List Piece)
  | array (items : List Syntax)
  | object (members : List (List Piece × Syntax))

namespace Syntax

def isBlank (c : Char) : Bool := c = ' ' || c = '\t' || c = '\n' || c = '\r'

def skipBlank (text : List Char) : List Char := text.dropWhile isBlank

def simpleEscape? (c : Char) : Option Char :=
  match c with
  | '"' => some '"'
  | '\\' => some '\\'
  | '/' => some '/'
  | 'b' => some '\x08'
  | 'f' => some '\x0c'
  | 'n' => some '\n'
  | 'r' => some '\r'
  | 't' => some '\t'
  | _ => none

def hex4? (a b c d : Char) : Option Nat :=
  match hexValue? a, hexValue? b, hexValue? c, hexValue? d with
  | some a, some b, some c, some d => some (4096 * a + 256 * b + 16 * c + d)
  | _, _, _, _ => none

/-- The rest of a string literal, after its opening quote. -/
def string? : List Char → Option (List Piece × List Char)
  | [] => none
  | '"' :: rest => some ([], rest)
  | '\\' :: 'u' :: a :: b :: c :: d :: rest =>
    match hex4? a b c d, string? rest with
    | some n, some (pieces, after) => some (.code n :: pieces, after)
    | _, _ => none
  | '\\' :: e :: rest =>
    match simpleEscape? e, string? rest with
    | some c, some (pieces, after) => some (.char c :: pieces, after)
    | _, _ => none
  | c :: rest =>
    if c = '\\' || c.toNat < 32 then none
    else (string? rest).map fun (pieces, after) => (.char c :: pieces, after)

def digits (text : List Char) : List Char × List Char :=
  (text.takeWhile Char.isDigit, text.dropWhile Char.isDigit)

/-- A fraction, if a point comes next. Nothing if no digit follows the point. -/
def fraction? : List Char → Option (Option (List Char) × List Char)
  | '.' :: rest =>
    let (ds, after) := digits rest
    if ds.isEmpty then none else some (some ds, after)
  | text => some (none, text)

def exponent? : List Char → Option (Option (Bool × List Char) × List Char)
  | c :: rest =>
    if c = 'e' || c = 'E' then
      let (negative, body) := match rest with
        | '+' :: more => (false, more)
        | '-' :: more => (true, more)
        | more => (false, more)
      let (ds, after) := digits body
      if ds.isEmpty then none else some (some (negative, ds), after)
    else some (none, c :: rest)
  | [] => some (none, [])

/-- A number literal. A zero is not followed by another digit before the point. -/
def number? (text : List Char) : Option (Numeral × List Char) :=
  let (negative, body) := match text with
    | '-' :: more => (true, more)
    | more => (false, more)
  let (whole, after) := digits body
  if whole.isEmpty || (whole.length > 1 && whole.head? == some '0') then none
  else
    match fraction? after with
    | none => none
    | some (fraction, after) =>
      match exponent? after with
      | none => none
      | some (exponent, after) => some (⟨negative, whole, fraction, exponent⟩, after)

def word? (word text : List Char) : Option (List Char) :=
  if word.isPrefixOf text then some (text.drop word.length) else none

mutual

/-- A value at the beginning of a text that begins with no blank. -/
def value? : Nat → List Char → Option (Syntax × List Char)
  | 0, _ => none
  | _, [] => none
  | fuel + 1, c :: rest =>
    match c with
    | 'n' => (word? "ull".toList rest).map (.null, ·)
    | 't' => (word? "rue".toList rest).map (.boolean true, ·)
    | 'f' => (word? "alse".toList rest).map (.boolean false, ·)
    | '"' => (string? rest).map fun (pieces, after) => (.string pieces, after)
    | '[' =>
      match skipBlank rest with
      | ']' :: after => some (.array [], after)
      | body => (items? fuel body).map fun (items, after) => (.array items, after)
    | '\x7b' =>
      match skipBlank rest with
      | '\x7d' :: after => some (.object [], after)
      | body => (members? fuel body).map fun (members, after) => (.object members, after)
    | _ => (number? (c :: rest)).map fun (numeral, after) => (.number numeral, after)

/-- One or more values with commas between them, up to the closing bracket. -/
def items? : Nat → List Char → Option (List Syntax × List Char)
  | 0, _ => none
  | fuel + 1, text =>
    match value? fuel text with
    | none => none
    | some (item, after) =>
      match skipBlank after with
      | ']' :: after => some ([item], after)
      | ',' :: after =>
        (items? fuel (skipBlank after)).map fun (items, after) => (item :: items, after)
      | _ => none

def members? : Nat → List Char → Option (List (List Piece × Syntax) × List Char)
  | 0, _ => none
  | fuel + 1, text =>
    match text with
    | '"' :: body =>
      match string? body with
      | none => none
      | some (key, after) =>
        match skipBlank after with
        | ':' :: after =>
          match value? fuel (skipBlank after) with
          | none => none
          | some (value, after) =>
            match skipBlank after with
            | '\x7d' :: after => some ([(key, value)], after)
            | ',' :: after =>
              (members? fuel (skipBlank after)).map fun (members, after) =>
                ((key, value) :: members, after)
            | _ => none
        | _ => none
    | _ => none

end

/-- The tree of a document: one value with blanks around it. Every call reads a character before
the next but one, which bounds their number. -/
def read? (text : String) : Option Syntax :=
  let body := skipBlank text.toList
  match value? (2 * body.length + 1) body with
  | some (tree, after) => if (skipBlank after).isEmpty then some tree else none
  | none => none

end Syntax

end NetworkPortal.Json
