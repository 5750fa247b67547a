import NetworkPortal.Plugin.Discovery
import NetworkPortal.Route.Table

/-! # Mounting plugins

A plugin is mounted below the plugin group unless one of its identifier is there already, its
mount path is no path segment, or the path is taken. Mounting never runs a loader.
-/
namespace NetworkPortal.Route

def isRegistered (children : List Entry) (identifier : String) : Bool :=
  children.any fun child =>
    match child.target with
    | .plugin mount => mount.identifier == identifier
    | _ => false

def isTaken (children : List Entry) (mountPath : String) : Bool :=
  children.any (·.path == mountPath)

def Mount.ofRegistration (plugin : Plugin.Registration) : Mount where
  identifier := plugin.identifier
  title := plugin.title
  mountPath := plugin.mountPath
  component := .unloaded plugin.loader

def mountOne (children : List Entry) (plugin : Plugin.Registration) : List Entry :=
  if isRegistered children plugin.identifier then children
  else if !Plugin.Manifest.isPathSegment plugin.mountPath then children
  else if isTaken children plugin.mountPath then children
  else children ++ [.ofMount (.ofRegistration plugin)]

def mountAll (children : List Entry) (plugins : List Plugin.Registration) : List Entry :=
  plugins.foldl mountOne children

/-- Changes the children of the first plugin group; without one, adds a group for them. -/
def changeGroup (change : List Entry → List Entry) : List Entry → List Entry
  | [] => [⟨pluginsPath, .group, change []⟩]
  | entry :: rest =>
    if entry.path = pluginsPath then { entry with children := change entry.children } :: rest
    else entry :: changeGroup change rest

namespace Table

def register (table : Table) (plugins : List Plugin.Registration) : Table :=
  ⟨changeGroup (mountAll · plugins) table.entries⟩

def mount? (table : Table) (identifier : String) : Option Mount :=
  table.mounts.find? (·.identifier == identifier)

def setComponent (table : Table) (identifier : String) (component : Plugin.Component) : Table :=
  ⟨table.entries.map fun entry =>
    { entry with children := entry.children.map fun child =>
      match child.target with
      | .plugin mount =>
        if mount.identifier = identifier then
          { child with target := .plugin { mount with component } }
        else child
      | _ => child }⟩

def resolve (table : Table) (mount : Mount) (env : Plugin.Environment) :
    Except PluginFault Markup × Table × Plugin.Environment :=
  let (outcome, component, env) := mount.component.resolve env
  (outcome, table.setComponent mount.identifier component, env)

end Table

end NetworkPortal.Route
