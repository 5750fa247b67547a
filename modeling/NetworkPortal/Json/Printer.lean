import NetworkPortal.Json.Basic

/-! # Compact JSON text

No blanks, and only the escapes that JSON requires.
-/
namespace NetworkPortal.Json

def lowerHex (n : Nat) : Char :=
  if n < 10 then .ofNat (48 + n) else .ofNat (87 + n)

def quoteChar (c : Char) : List Char :=
  if c = '"' then ['\\', '"']
  else if c = '\\' then ['\\', '\\']
  else if c.toNat = 8 then ['\\', 'b']
  else if c.toNat = 12 then ['\\', 'f']
  else if c = '\n' then ['\\', 'n']
  else if c = '\r' then ['\\', 'r']
  else if c = '\t' then ['\\', 't']
  else if c.toNat < 32 then
    ['\\', 'u', '0', '0', lowerHex (c.toNat / 16), lowerHex (c.toNat % 16)]
  else [c]

def quote (text : String) : List Char :=
  '"' :: text.toList.flatMap quoteChar ++ ['"']

mutual

def chars : Json → List Char
  | .null => "null".toList
  | .boolean value => (if value then "true" else "false").toList
  | .number value => value.text.toList
  | .string text => quote text
  | .array items => '[' :: [','].intercalate (itemChars items) ++ [']']
  | .object members => '\x7b' :: [','].intercalate (memberChars members) ++ ['\x7d']

def itemChars : List Json → List (List Char)
  | [] => []
  | item :: rest => item.chars :: itemChars rest

def memberChars : List (String × Json) → List (List Char)
  | [] => []
  | (key, value) :: rest => (quote key ++ ':' :: value.chars) :: memberChars rest

end

def compact (value : Json) : String := .ofList value.chars

end NetworkPortal.Json
