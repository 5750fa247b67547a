import NetworkPortal.Json.Basic

/-! # Plugin tabs

A plugin may add tabs to the page of a resource. The backend lists them in a tab document as
objects of keys and tabs, and a key may occur again; each tab gets a key of its own.
-/
namespace NetworkPortal.Plugin

structure Tab where
  key : String
  title : String
  url : String
  deriving DecidableEq

namespace Tab

/-- The spellings of a key in the order in which they are tried: `k`, `k-2`, `k-3`, …. -/
def spelling (key : String) (n : Nat) : String :=
  if n = 0 then key else key ++ "-" ++ toString (n + 1)

/-- The first spelling from the `n`-th on that is not taken, with `tries` of them looked at. -/
def firstFree (taken : List String) (key : String) : Nat → Nat → String
  | n, 0 => spelling key n
  | n, tries + 1 =>
    if spelling key n ∈ taken then firstFree taken key (n + 1) tries else spelling key n

/-- The first spelling of a key that is not taken. One of the first `taken.length + 1` is free. -/
def freshKey (taken : List String) (key : String) : String :=
  firstFree taken key 0 taken.length

def candidates (document : Json) : List (String × Json) :=
  (((document.get? "tabs").bind Json.array?).getD []).flatMap fun group => group.object?.getD []

def titleAndUrl? (tab : Json) : Option (String × String) :=
  match (tab.get? "title").bind Json.string?, (tab.get? "url").bind Json.string? with
  | some title, some url => some (title, url)
  | _, _ => none

/-- The tabs of candidates when the keys in `taken` are used already. -/
def collect (taken : List String) : List (String × Json) → List Tab
  | [] => []
  | (key, tab) :: rest =>
    match titleAndUrl? tab with
    | some (title, url) =>
      let fresh := freshKey taken key
      ⟨fresh, title, url⟩ :: collect (fresh :: taken) rest
    | none => collect taken rest

def ofDocument (document : Json) : List Tab := collect [] (candidates document)

end Tab

end NetworkPortal.Plugin
