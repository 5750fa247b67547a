import NetworkPortal.Keyed

/-! # TOML values

A document is a table. Tables remember how they came to be, since that decides what may still be
added to them: a header opens a table for good, a longer header implies the tables above its own,
and a dotted key makes tables that only dotted keys of the same place extend.
-/
namespace NetworkPortal.Toml

inductive Origin where
  | header
  | implied
  | dotted
  deriving DecidableEq

inductive Value where
  | text (content : String)
  | integer (value : Int64)
  | real (literal : String)
  | boolean (value : Bool)
  | moment (literal : String)
  | array (items : List Value)
  /-- A table written inside a value, to which nothing can be added. -/
  | inlineTable (entries : List (String × Value))
  | table (origin : Origin) (entries : List (String × Value))
  /-- Tables opened one after the other under the same header. -/
  | tables (elements : List (List (String × Value)))

abbrev Entries := List (String × Value)

def changeLast {α : Type} (change : α → Option α) (items : List α) : Option (List α) :=
  match items.getLast? with
  | none => none
  | some last => (change last).map fun last => items.dropLast ++ [last]

namespace Entries

/-- Goes down the keys of a header, implying the tables that are not there yet, and changes the
table at the end. Of tables under one header the last is meant. -/
def within (change : Entries → Option Entries) : List String → Entries → Option Entries
  | [], entries => change entries
  | key :: rest, entries =>
    match Keyed.get? key entries with
    | none => (within change rest []).map fun sub =>
        Keyed.put key (.table .implied sub) entries
    | some (.table origin sub) => (within change rest sub).map fun sub =>
        Keyed.put key (.table origin sub) entries
    | some (.tables elements) => (changeLast (within change rest) elements).map fun elements =>
        Keyed.put key (.tables elements) entries
    | some _ => none

def add (key : String) (value : Value) (entries : Entries) : Option Entries :=
  match Keyed.get? key entries with
  | none => some (Keyed.put key value entries)
  | some _ => none

/-- Puts a value under a dotted key. `isOpen` tells whether the table reached so far takes keys
from here: the first one does, and further down only tables of dotted keys do. -/
def assign (value : Value) (last : String) : Bool → List String → Entries → Option Entries
  | isOpen, [], entries => if isOpen then add last value entries else none
  | _, key :: rest, entries =>
    match Keyed.get? key entries with
    | none => (assign value last true rest []).map fun sub =>
        Keyed.put key (.table .dotted sub) entries
    | some (.table .header _) => none
    | some (.table origin sub) => (assign value last (origin = .dotted) rest sub).map fun sub =>
        Keyed.put key (.table origin sub) entries
    | some (.tables elements) =>
      (changeLast (assign value last false rest) elements).map fun elements =>
        Keyed.put key (.tables elements) entries
    | some _ => none

/-- Opens a table by its header. A table that was only implied so far becomes the header's. -/
def openTable (key : String) (entries : Entries) : Option Entries :=
  match Keyed.get? key entries with
  | none => some (Keyed.put key (.table .header []) entries)
  | some (.table .implied sub) => some (Keyed.put key (.table .header sub) entries)
  | some _ => none

def openElement (key : String) (entries : Entries) : Option Entries :=
  match Keyed.get? key entries with
  | none => some (Keyed.put key (.tables [[]]) entries)
  | some (.tables elements) => some (Keyed.put key (.tables (elements ++ [[]])) entries)
  | some _ => none

end Entries

def inlineTable? (pairs : List ((List String × String) × Value)) : Option Value :=
  (pairs.foldlM (fun entries ((path, last), value) =>
    Entries.assign value last true path entries) []).map .inlineTable

end NetworkPortal.Toml
