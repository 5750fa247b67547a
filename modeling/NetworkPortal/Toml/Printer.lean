import NetworkPortal.Toml.Quoted.Writer

/-! # Writing TOML

A document of sections: a header and its keys, a blank line between two sections. An array of more
than one element has an element a line.
-/
namespace NetworkPortal.Toml

inductive Setting where
  | text (content : String)
  | natural (value : Nat)
  | boolean (value : Bool)
  | texts (items : List String)
  deriving DecidableEq

structure Section where
  name : String
  entries : List (String × Setting)
  deriving DecidableEq

namespace Setting

def writeTexts : List String → String
  | [] => "[]"
  | [item] => "[" ++ Quoted.write item ++ "]"
  | items =>
    "[\n" ++ String.join (items.map fun item => "    " ++ Quoted.write item ++ ",\n") ++ "]"

def write : Setting → String
  | .text content => Quoted.write content
  | .natural value => toString value
  | .boolean value => if value then "true" else "false"
  | .texts items => writeTexts items

end Setting

def Section.write (s : Section) : String :=
  "[" ++ s.name ++ "]\n" ++
    String.join (s.entries.map fun (key, setting) => key ++ " = " ++ setting.write ++ "\n")

def writeSections (sections : List Section) : String :=
  "\n".intercalate (sections.map Section.write)

end NetworkPortal.Toml
