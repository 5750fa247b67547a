import NetworkPortal.Toml.Quoted.Reader
import NetworkPortal.Toml.Scalar

/-! # Reading TOML

A document is a list of lines: headers of tables, headers of elements, and values under dotted
keys. Each opens or fills a table of the document.
-/
namespace NetworkPortal.Toml

open Quoted (isPlain)

abbrev KeyPath := List String × String

inductive Line where
  | table (path : KeyPath)
  | element (path : KeyPath)
  | entry (path : KeyPath) (value : Value)

/-- The depth at which values are too deep in each other, and the number of parts at which a key
has too many. -/
def nestingLimit : Nat := 80

def isBlank (c : Char) : Bool := c = ' ' || c = '\t'

def skipBlank (text : List Char) : List Char := text.dropWhile isBlank

/-- Skips blanks, line ends and comments. `comment` tells that a comment is going on. -/
def skipLines (comment : Bool) : List Char → List Char
  | [] => []
  | c :: rest =>
    if comment && isPlain c then skipLines true rest
    else if c = '#' then skipLines true rest
    else if isBlank c || c = '\n' then skipLines false rest
    else if c = '\r' && rest.head? == some '\n' then skipLines false rest
    else c :: rest

/-! ## Keys -/

def isBareChar (c : Char) : Bool := c.isAlphanum || c = '-' || c = '_'

def keyPart? (text : List Char) : Option (String × List Char) :=
  match text with
  | c :: _ =>
    if c = '"' || c = '\x27' then
      (Quoted.readLine? text).map fun (key, rest) => (.ofList key, rest)
    else
      let bare := text.takeWhile isBareChar
      if bare.isEmpty then none else some (.ofList bare, text.dropWhile isBareChar)
  | [] => none

def keyParts? : Nat → List Char → Option (List String × List Char)
  | 0, _ => none
  | fuel + 1, text =>
    match keyPart? (skipBlank text) with
    | none => none
    | some (part, rest) =>
      match skipBlank rest with
      | '.' :: rest => (keyParts? fuel rest).map fun (parts, rest) => (part :: parts, rest)
      | rest => some ([part], rest)

/-- A dotted key. A key has fewer parts than the limit, so that many tries are enough. -/
def keyPath? (text : List Char) : Option (KeyPath × List Char) :=
  match keyParts? (nestingLimit - 1) text with
  | some (parts, rest) => some ((parts.dropLast, parts.getLastD ""), rest)
  | none => none

/-! ## Values -/

mutual

/-- A value, `depth` arrays and inline tables deep. -/
def value? : Nat → Nat → List Char → Option (Value × List Char)
  | 0, _, _ => none
  | _, _, [] => none
  | fuel + 1, depth, c :: rest =>
    if c = '"' || c = '\x27' then
      (Quoted.read? (c :: rest)).map fun (text, after) => (.text (.ofList text), after)
    else if c = '[' then
      if nestingLimit ≤ depth + 1 then none
      else (items? fuel (depth + 1) (skipLines false rest)).map fun (items, after) =>
        (.array items, after)
    else if c = '\x7b' then
      if nestingLimit ≤ depth + 1 then none
      else
        match skipBlank rest with
        | '\x7d' :: after => some (.inlineTable [], after)
        | body =>
          match pairs? fuel (depth + 1) body with
          | some (pairs, after) => (inlineTable? pairs).map (·, after)
          | none => none
    else if c = 't' || c = 'f' then Scalar.boolean? (c :: rest)
    else Scalar.number? (c :: rest)

/-- The values of an array up to the closing bracket. A comma may come before it. -/
def items? : Nat → Nat → List Char → Option (List Value × List Char)
  | 0, _, _ => none
  | fuel + 1, depth, text =>
    match text with
    | ']' :: after => some ([], after)
    | _ =>
      match value? fuel depth text with
      | none => none
      | some (item, after) =>
        match skipLines false after with
        | ']' :: after => some ([item], after)
        | ',' :: after =>
          (items? fuel depth (skipLines false after)).map fun (items, after) =>
            (item :: items, after)
        | _ => none

def pairs? : Nat → Nat → List Char → Option (List (KeyPath × Value) × List Char)
  | 0, _, _ => none
  | fuel + 1, depth, text =>
    match keyPath? text with
    | some (path, '=' :: rest) =>
      match value? fuel depth (skipBlank rest) with
      | none => none
      | some (value, after) =>
        match skipBlank after with
        | '\x7d' :: after => some ([(path, value)], after)
        | ',' :: after =>
          (pairs? fuel depth after).map fun (pairs, after) => ((path, value) :: pairs, after)
        | _ => none
    | _ => none

end

/-! ## Lines -/

/-- What follows the end of a line, with blanks and a comment before it. The end of the text ends
a line as well. -/
def lineEnd? (text : List Char) : Option (List Char) :=
  let rest := match skipBlank text with
    | '#' :: rest => rest.dropWhile isPlain
    | rest => rest
  match rest with
  | [] => some []
  | '\n' :: rest => some rest
  | '\r' :: '\n' :: rest => some rest
  | _ => none

def line? (text : List Char) : Option (Line × List Char) :=
  match text with
  | '[' :: '[' :: rest =>
    match keyPath? rest with
    | some (path, ']' :: ']' :: rest) => (lineEnd? rest).map (.element path, ·)
    | _ => none
  | '[' :: rest =>
    match keyPath? rest with
    | some (path, ']' :: rest) => (lineEnd? rest).map (.table path, ·)
    | _ => none
  | text =>
    match keyPath? text with
    | some (path, '=' :: rest) =>
      match value? (2 * rest.length + 1) 0 (skipBlank rest) with
      | some (value, rest) => (lineEnd? rest).map (.entry path value, ·)
      | none => none
    | _ => none

/-- All lines of a text. Each of them, blank or not, takes at least one character. -/
def lines? : Nat → List Char → Option (List Line)
  | 0, text => if text.isEmpty then some [] else none
  | fuel + 1, text =>
    match skipBlank text with
    | [] => some []
    | body =>
      match lineEnd? body with
      | some rest => lines? fuel rest
      | none =>
        match line? body with
        | some (line, rest) => (lines? fuel rest).map (line :: ·)
        | none => none

/-! ## Documents -/

/-- A document while it is read, with the path of the table that values go to. -/
structure Draft where
  root : Entries := []
  current : List String := []

def Draft.add (draft : Draft) : Line → Option Draft
  | .table (path, last) =>
    (draft.root.within (Entries.openTable last) path).map fun root => ⟨root, path ++ [last]⟩
  | .element (path, last) =>
    (draft.root.within (Entries.openElement last) path).map fun root => ⟨root, path ++ [last]⟩
  | .entry (path, last) value =>
    (draft.root.within (Entries.assign value last true path) draft.current).map fun root =>
      { draft with root }

/-- The root table of a document. A byte order mark at its beginning is skipped. -/
def read? (text : String) : Option Entries :=
  let body := match text.toList with
    | '\ufeff' :: rest => rest
    | chars => chars
  match lines? body.length body with
  | some lines => (lines.foldlM Draft.add {}).map Draft.root
  | none => none

end NetworkPortal.Toml
