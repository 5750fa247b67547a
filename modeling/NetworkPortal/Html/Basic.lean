import NetworkPortal.Text.Basic

/-! # HTML trees

Pages are built as trees and written as text in one place, where every text and every attribute is
escaped. Only `Markup`, which comes from a trusted producer, is written as it is.
-/
namespace NetworkPortal

structure Markup where
  html : String
  deriving DecidableEq

def Markup.isBlank (markup : Markup) : Bool := Text.allBlank markup.html

inductive Html where
  | text (content : String)
  | trusted (markup : Markup)
  | element (name : String) (attributes : List (String × String)) (children : List Html)

namespace Html

def escapeChar (c : Char) : List Char :=
  if c = '&' then "&amp;".toList
  else if c = '<' then "&lt;".toList
  else if c = '>' then "&gt;".toList
  else if c = '"' then "&quot;".toList
  else if c = '\x27' then "&#39;".toList
  else [c]

/-- A text made safe inside an element and inside a quoted attribute. -/
def escape (text : String) : String :=
  .ofList (text.toList.flatMap escapeChar)

def writeAttributes : List (String × String) → String
  | [] => ""
  | (name, value) :: rest => " " ++ name ++ "=\"" ++ escape value ++ "\"" ++ writeAttributes rest

mutual

def write : Html → String
  | .text content => escape content
  | .trusted markup => markup.html
  | .element name attributes children =>
    "<" ++ name ++ writeAttributes attributes ++ ">" ++ writeAll children ++ "</" ++ name ++ ">"

def writeAll : List Html → String
  | [] => ""
  | node :: rest => node.write ++ writeAll rest

end

end Html

end NetworkPortal
