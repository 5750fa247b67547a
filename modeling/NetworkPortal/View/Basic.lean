import NetworkPortal.Backend.Fragment
import NetworkPortal.Page.Layout
import NetworkPortal.Page.Listing

/-! # Views

A view is a page before it is put together: its status, title, navigation and body. Every view
asks for the menu. A view of resources asks for its primary address too, and without it shows a
notice.
-/
namespace NetworkPortal

structure View where
  status : Nat
  title : String
  navigation : Page.Navigation
  body : String
  deriving DecidableEq

namespace View

open Settings (Api isSafeSegment)

def text (view : View) : String := Page.layout view.title view.navigation view.body

def loadNavigation (api : Api) : Fetch Page.Navigation := do
  match ← Fetch.json api.menuUrl with
  | .ok document => return .loaded (Menu.tree (Menu.ofJson document))
  | .error _ => return .failed

def notice (message : String) : String := (Page.alert message).write

def notFound (navigation : Page.Navigation) : View :=
  ⟨404, "Not Found", navigation, notice "Not found"⟩

def unavailable (navigation : Page.Navigation) (url : String) : View :=
  ⟨502, "Error", navigation, notice ("Failed to load " ++ url)⟩

def home (api : Api) : Fetch View := do
  return ⟨200, "Home", ← loadNavigation api, Html.writeAll Page.homeBody⟩

def installedPlugins (api : Api) (mounts : List Route.Mount) : Fetch View := do
  return ⟨200, "Installed Plugins", ← loadNavigation api, Html.writeAll (Page.pluginsBody mounts)⟩

def pluginPage (api : Api) (mount : Route.Mount) (page : Except PluginFault Markup) :
    Fetch View := do
  let navigation ← loadNavigation api
  match page with
  | .ok markup => return ⟨200, mount.title, navigation, markup.html⟩
  | .error _ =>
    return ⟨500, mount.title, navigation, notice ("Failed to load plugin " ++ mount.identifier)⟩

/-- The title of a list: the label of the model, whose words may also be joined by hyphens. -/
def listTitle (model : String) : String := Text.humanize (Text.replaceChar '-' '_' model)

def list (api : Api) (app model : String) : Fetch View := do
  if [app, model].all isSafeSegment then
    let url := api.listUrl app model
    let navigation ← loadNavigation api
    match ← Fetch.json url with
    | .ok listing =>
      let title := listTitle model
      let items := Page.ListItem.ofListing listing app model
      return ⟨200, title, navigation, Html.writeAll (Page.listBody title items)⟩
    | .error _ => return unavailable navigation url
  else return notFound (← loadNavigation api)

end View

end NetworkPortal
