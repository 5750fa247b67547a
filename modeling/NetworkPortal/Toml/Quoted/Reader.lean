import NetworkPortal.Text.Percent

/-! # Reading quoted text

Four forms of TOML strings: basic and literal, on one line or on several. A reader starts after
the opening delimiter and returns the text with what follows the closing one.
-/
namespace NetworkPortal.Toml.Quoted

open Text.Percent (hexValue?)

/-- A character that may stand in a comment: no control character but the tab. -/
def isPlain (c : Char) : Bool := c = '\t' || (32 ≤ c.toNat && c.toNat != 127)

def hexNumber? (digits : List Char) : Option Nat :=
  digits.foldlM (fun n c => (hexValue? c).map (16 * n + ·)) 0

def codeChar? (digits : List Char) : Option Char :=
  (hexNumber? digits).bind fun n =>
    if n < 0xD800 || (0xE000 ≤ n && n < 0x110000) then some (.ofNat n) else none

def escapeChar? (c : Char) : Option Char :=
  match c with
  | 'b' => some '\x08'
  | 't' => some '\t'
  | 'n' => some '\n'
  | 'f' => some '\x0c'
  | 'r' => some '\r'
  | '"' => some '"'
  | '\\' => some '\\'
  | _ => none

def prepend (c : Option Char) (rest : Option (List Char × List Char)) :
    Option (List Char × List Char) :=
  match c, rest with
  | some c, some (text, after) => some (c :: text, after)
  | _, _ => none

def basic? : List Char → Option (List Char × List Char)
  | [] => none
  | '"' :: rest => some ([], rest)
  | '\\' :: 'u' :: a :: b :: c :: d :: rest => prepend (codeChar? [a, b, c, d]) (basic? rest)
  | '\\' :: 'U' :: a :: b :: c :: d :: e :: f :: g :: h :: rest =>
    prepend (codeChar? [a, b, c, d, e, f, g, h]) (basic? rest)
  | '\\' :: e :: rest => prepend (escapeChar? e) (basic? rest)
  | c :: rest => if c != '\\' && isPlain c then prepend (some c) (basic? rest) else none

def literal? : List Char → Option (List Char × List Char)
  | [] => none
  | c :: rest =>
    if c = '\x27' then some ([], rest)
    else if isPlain c then prepend (some c) (literal? rest) else none

def endsLine (text : List Char) : Bool :=
  match text.dropWhile fun c => c = ' ' || c = '\t' with
  | '\n' :: _ => true
  | '\r' :: '\n' :: _ => true
  | _ => false

/-- The end of a string on several lines: three quotes, of which up to two more before them belong
to the text. The reader stands behind the first three. -/
def closing (quote : Char) : List Char → List Char × List Char
  | a :: b :: rest =>
    if a = quote then
      if b = quote then ([quote, quote], rest) else ([quote], b :: rest)
    else ([], a :: b :: rest)
  | [a] => if a = quote then ([quote], []) else ([], [a])
  | [] => ([], [])

/-- A basic string on several lines. A backslash at the end of a line takes away the blanks and
line ends up to the next character; `skipping` tells that this is going on. -/
def basicLines? (skipping : Bool) : List Char → Option (List Char × List Char)
  | [] => none
  | '"' :: '"' :: '"' :: rest => some (closing '"' rest)
  | '"' :: rest => prepend (some '"') (basicLines? false rest)
  | '\r' :: '\n' :: rest =>
    if skipping then basicLines? true rest else prepend (some '\n') (basicLines? false rest)
  | '\\' :: 'u' :: a :: b :: c :: d :: rest =>
    prepend (codeChar? [a, b, c, d]) (basicLines? false rest)
  | '\\' :: 'U' :: a :: b :: c :: d :: e :: f :: g :: h :: rest =>
    prepend (codeChar? [a, b, c, d, e, f, g, h]) (basicLines? false rest)
  | '\\' :: e :: rest =>
    if endsLine (e :: rest) then basicLines? true (e :: rest)
    else prepend (escapeChar? e) (basicLines? false rest)
  | c :: rest =>
    if c = '\n' then
      if skipping then basicLines? true rest else prepend (some '\n') (basicLines? false rest)
    else if skipping && (c = ' ' || c = '\t') then basicLines? true rest
    else if c != '\\' && isPlain c then prepend (some c) (basicLines? false rest) else none

def literalLines? : List Char → Option (List Char × List Char)
  | [] => none
  | '\x27' :: '\x27' :: '\x27' :: rest => some (closing '\x27' rest)
  | '\r' :: '\n' :: rest => prepend (some '\n') (literalLines? rest)
  | c :: rest => if c = '\n' || isPlain c then prepend (some c) (literalLines? rest) else none

/-- A line end right after the opening delimiter does not belong to the text. -/
def dropLineEnd : List Char → List Char
  | '\n' :: rest => rest
  | '\r' :: '\n' :: rest => rest
  | text => text

def read? (text : List Char) : Option (List Char × List Char) :=
  match text with
  | '"' :: '"' :: '"' :: rest => basicLines? false (dropLineEnd rest)
  | '"' :: rest => basic? rest
  | '\x27' :: '\x27' :: '\x27' :: rest => literalLines? (dropLineEnd rest)
  | '\x27' :: rest => literal? rest
  | _ => none

def readLine? (text : List Char) : Option (List Char × List Char) :=
  match text with
  | '"' :: rest => basic? rest
  | '\x27' :: rest => literal? rest
  | _ => none

end NetworkPortal.Toml.Quoted
