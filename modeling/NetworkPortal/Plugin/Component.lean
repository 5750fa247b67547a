import NetworkPortal.Error
import NetworkPortal.Html.Basic
import NetworkPortal.Storage.Tree

/-! # Plugin components

The page of a plugin is loaded when it is first asked for and kept from then on. A load that fails
leaves nothing behind, and the next request loads again.
-/
namespace NetworkPortal.Plugin

/-- How the page of a plugin is got: from a file, or from a supplier that may answer each call
differently. -/
inductive Loader where
  | file (path : String)
  | supplied (slot : Nat) (outcome : Nat → Except PluginFault Markup)

inductive Loader.Key where
  | file (path : String)
  | supplied (slot : Nat)
  deriving DecidableEq

def Loader.key : Loader → Loader.Key
  | .file path => .file path
  | .supplied slot _ => .supplied slot

/-- What loading depends on: the files there are, and how often each loader has run. -/
structure Environment where
  storage : Storage
  calls : Loader.Key → Nat

namespace Loader

/-- The outcome of a loader that has run `calls` times before. -/
def outcome (storage : Storage) (calls : Nat) : Loader → Except PluginFault Markup
  | .file path =>
    match storage.readText path with
    | .ok text => .ok ⟨text⟩
    | .error fault => .error (.unreadable path fault)
  | .supplied _ outcome => outcome calls

def run (loader : Loader) (env : Environment) : Except PluginFault Markup × Environment :=
  (loader.outcome env.storage (env.calls loader.key),
    { env with calls := fun key => if key = loader.key then env.calls key + 1 else env.calls key })

end Loader

structure Component where
  loader : Loader
  loaded : Option Markup

namespace Component

def unloaded (loader : Loader) : Component := ⟨loader, none⟩

def resolve (component : Component) (env : Environment) :
    Except PluginFault Markup × Component × Environment :=
  match component.loaded with
  | some markup => (.ok markup, component, env)
  | none =>
    match component.loader.run env with
    | (.ok markup, env) => (.ok markup, { component with loaded := some markup }, env)
    | (.error fault, env) => (.error fault, component, env)

end Component

end NetworkPortal.Plugin
