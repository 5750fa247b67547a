/-! # Texts

Every function here reads a text as its list of characters, so that a statement about it is a
statement about lists.
-/
namespace NetworkPortal.Text

/-! ## Beginnings, ends and pieces -/

def startsWith (start text : String) : Bool :=
  start.toList.isPrefixOf text.toList

def endsWithChar (c : Char) (text : String) : Bool :=
  text.toList.getLast? == some c

def occurs (piece : List Char) : List Char → Bool
  | [] => piece.isEmpty
  | c :: rest => piece.isPrefixOf (c :: rest) || occurs piece rest

def contains (piece text : String) : Bool :=
  occurs piece.toList text.toList

def trimStart (c : Char) (text : String) : String :=
  .ofList (text.toList.dropWhile (· == c))

def trimEnd (c : Char) (text : String) : String :=
  .ofList (text.toList.reverse.dropWhile (· == c)).reverse

def trimBoth (c : Char) (text : String) : String :=
  trimEnd c (trimStart c text)

def replaceChar (old new : Char) (text : String) : String :=
  .ofList (text.toList.map fun c => if c = old then new else c)

/-- The pieces of `text` between the occurrences of `c`: one more than there are of them. -/
def cutAt (c : Char) (text : String) : List String :=
  (text.toList.splitOn c).map .ofList

/-! ## White space

The characters with the Unicode property `White_Space`, of which there are twenty-five.
-/

def isBlank (c : Char) : Bool :=
  let n := c.toNat
  (9 ≤ n && n ≤ 13) || n == 0x20 || n == 0x85 || n == 0xA0 || n == 0x1680 ||
    (0x2000 ≤ n && n ≤ 0x200A) || n == 0x2028 || n == 0x2029 || n == 0x202F ||
    n == 0x205F || n == 0x3000

def allBlank (text : String) : Bool :=
  text.toList.all isBlank

def trim (text : String) : String :=
  .ofList ((text.toList.dropWhile isBlank).reverse.dropWhile isBlank).reverse

/-! ## Decimal digits -/

def digitValue (c : Char) : Nat := c.toNat - 48

def ofDigits (digits : List Char) : Nat :=
  digits.foldl (fun n c => 10 * n + digitValue c) 0

end NetworkPortal.Text
