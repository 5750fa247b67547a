import NetworkPortal.Plugin.Component

/-! # The route table

The paths of the portal as a tree. The path of an entry is relative to its parent, and the pages
of plugins are children of one group.
-/
namespace NetworkPortal.Route

structure Mount where
  identifier : String
  title : String
  mountPath : String
  component : Plugin.Component

/-- What is shown at a path. A group shows nothing and only holds its children together. -/
inductive Target where
  | home
  | resourceList
  | resourceDetail
  | installedPlugins
  | plugin (mount : Mount)
  | group

structure Entry where
  path : String
  target : Target
  children : List Entry

structure Table where
  entries : List Entry

def pluginsPath : String := "/plugins/"

def listingPath : String := "installed-plugins"

def Target.isGroup : Target → Bool
  | .group => true
  | _ => false

def Target.mount? : Target → Option Mount
  | .plugin mount => some mount
  | _ => none

namespace Entry

def leaf (path : String) (target : Target) : Entry := ⟨path, target, []⟩

def ofMount (mount : Mount) : Entry := leaf mount.mountPath (.plugin mount)

end Entry

/-- A relative path below a parent, with one slash between them at least. -/
def joinPath (parent child : String) : String :=
  if parent.isEmpty then child
  else if Text.endsWithChar '/' parent then parent ++ child
  else parent ++ "/" ++ child

mutual

/-- An entry and what lies below it, with absolute paths; groups themselves are left out. -/
def Entry.flatten (parent : String) : Entry → List (String × Target)
  | ⟨path, target, children⟩ =>
    (if target.isGroup then [] else [(joinPath parent path, target)]) ++
      flattenAll (joinPath parent path) children

def flattenAll (parent : String) : List Entry → List (String × Target)
  | [] => []
  | entry :: rest => entry.flatten parent ++ flattenAll parent rest

end

namespace Table

def base : Table :=
  ⟨[.leaf "/" .home,
    .leaf "/:app_name/:model_name" .resourceList,
    .leaf "/:app_name/:model_name/:id" .resourceDetail,
    ⟨pluginsPath, .group, [.leaf listingPath .installedPlugins]⟩]⟩

def flatten (table : Table) : List (String × Target) := flattenAll "" table.entries

def pluginChildren (table : Table) : List Entry :=
  (table.entries.filter (·.path == pluginsPath)).flatMap Entry.children

def mounts (table : Table) : List Mount :=
  table.pluginChildren.filterMap fun child => child.target.mount?

end Table

end NetworkPortal.Route
