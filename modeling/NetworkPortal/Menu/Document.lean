import NetworkPortal.Json.Basic

/-! # Menu documents

The backend publishes its menu as an array of named entries. An entry groups links, and keeps its
groups under `groups` or under `properties.groups`. A part of the wrong form counts as absent.
-/
namespace NetworkPortal.Menu

/-- The links of a group: the name shown for each address. -/
structure Group where
  links : List (String × String)
  deriving DecidableEq

structure Entry where
  name : String
  groups : List (String × Group)
  deriving DecidableEq

/-- A link is named by its `name`, else by its address. -/
def linkName (href : String) (item : Json) : String :=
  ((item.get? "name").bind Json.string?).getD href

def Group.ofJson (group : Json) : Group :=
  ⟨(((group.get? "items").bind Json.object?).getD []).map fun (href, item) =>
    (href, linkName href item)⟩

def groupMembers (entry : Json) : List (String × Json) :=
  (((entry.get? "groups").bind Json.object?).or
    (((entry.get? "properties").bind (Json.get? "groups")).bind Json.object?)).getD []

def Entry.ofJson? (entry : Json) : Option Entry :=
  ((entry.get? "name").bind Json.string?).map fun name =>
    ⟨name, (groupMembers entry).map fun (header, group) => (header, Group.ofJson group)⟩

def ofJson (document : Json) : List Entry :=
  (document.array?.getD []).filterMap Entry.ofJson?

end NetworkPortal.Menu
