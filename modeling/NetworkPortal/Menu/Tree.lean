import NetworkPortal.Menu.Document

/-! # Menu trees

The menu as the navigation bar shows it: a dropdown for each entry, a headed group for each group
of links, and a divider after the links of a group. Every node has a key.
-/
namespace NetworkPortal.Menu

inductive Child where
  | link (key href label : String)
  | divider
  deriving DecidableEq

structure Section where
  key : String
  header : String
  children : List Child
  deriving DecidableEq

structure Dropdown where
  key : String
  label : String
  sections : List Section
  deriving DecidableEq

def Section.ofGroup (entryName header : String) (group : Group) : Section where
  key := entryName ++ "/" ++ header
  header := header
  children := (group.links.map fun (href, name) => .link href href name) ++ [.divider]

def Dropdown.ofEntry (entry : Entry) : Dropdown where
  key := entry.name
  label := entry.name
  sections := entry.groups.map fun (header, group) => .ofGroup entry.name header group

def tree (entries : List Entry) : List Dropdown := entries.map .ofEntry

end NetworkPortal.Menu
