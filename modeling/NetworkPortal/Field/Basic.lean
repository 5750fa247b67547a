import NetworkPortal.Json.Printer

/-! # Field values

A JSON value that a resource holds under a key is put into one of five classes when it comes in:
nothing, a scalar text, a reference to another resource, a list, or a truth value.
-/
namespace NetworkPortal

inductive Field where
  | empty
  | scalar (text : String)
  | reference (display : String) (url : Option String)
  | list (items : List Field)
  | boolean (value : Bool)

namespace Field

/-- A string as it is, nothing for null, else the compact JSON text. -/
def labelText : Json → String
  | .string text => text
  | .null => ""
  | value => value.compact

/-- An object is a reference by its `display` member, and without one a scalar in JSON text. -/
def ofMembers (members : List (String × Json)) : Field :=
  match Keyed.get? "display" members with
  | some label => .reference (labelText label) ((Keyed.get? "url" members).bind Json.string?)
  | none => .scalar (Json.object members).compact

mutual

def ofJson : Json → Field
  | .null => .empty
  | .string text => if text.isEmpty then .empty else .scalar text
  | .number value => .scalar value.text
  | .boolean value => .boolean value
  | .array items => .list (ofItems items)
  | .object members => ofMembers members

def ofItems : List Json → List Field
  | [] => []
  | item :: rest => ofJson item :: ofItems rest

end

def scalar? : Field → Option String
  | .scalar text => some text
  | _ => none

end Field

end NetworkPortal
