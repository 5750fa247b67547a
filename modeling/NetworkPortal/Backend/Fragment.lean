import NetworkPortal.Backend.Fetch
import NetworkPortal.Html.Basic
import NetworkPortal.Plugin.Tab
import NetworkPortal.Settings.Endpoints

/-! # What plugins of the backend add to a page

All of it is optional: what cannot be fetched is left out.
-/
namespace NetworkPortal.Fetch

open Settings (Api)

def markup (url : String) : Fetch (Option Markup) := do
  return (← text url).toOption.map .mk

def fragment (resourceUrl : String) : Fetch (Option Markup) :=
  markup (Settings.fragmentUrl resourceUrl)

def slugFragment (api : Api) (app resource slug : String) : Fetch (Option Markup) :=
  markup (api.slugViewUrl app resource slug ++ "?fragment=true")

def completeTab (api : Api) (tab : Plugin.Tab) : Plugin.Tab :=
  { tab with url := api.absoluteUrl tab.url }

def tabs (api : Api) (app resource slug : String) : Fetch (List Plugin.Tab) := do
  match ← json (api.slugViewUrl app resource slug ++ "?format=json") with
  | .ok document => return (Plugin.Tab.ofDocument document).map (completeTab api)
  | .error _ => return []

end NetworkPortal.Fetch
