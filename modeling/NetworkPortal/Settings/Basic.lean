import NetworkPortal.Error
import NetworkPortal.Text.Basic

/-! # Settings

Where the portal listens, which backend it asks, and where its plugins are.
-/
namespace NetworkPortal

structure Settings.Server where
  host : String := "127.0.0.1"
  port : Nat := 3000
  /-- Origins that may read the pages from another site; none listed means any. -/
  origins : List String := []
  deriving DecidableEq

structure Settings.Api where
  baseUrl : String := "http://localhost:8080"
  timeout : Nat := 10
  /-- Resource types `app/resource` whose pages the backend addresses by slug. -/
  slugViews : List String := ["dcim/sites"]
  deriving DecidableEq

structure Settings.Plugins where
  enabled : Bool := true
  directory : String
  deriving DecidableEq

structure Settings where
  server : Settings.Server := {}
  api : Settings.Api := {}
  plugins : Settings.Plugins
  deriving DecidableEq

namespace Settings

def defaults (pluginDirectory : String) : Settings :=
  { plugins := { directory := pluginDirectory } }

/-- The backend has an address with a scheme, and a request has some time. -/
def validate (settings : Settings) : Except SettingsFault Unit :=
  let base := Text.trim settings.api.baseUrl
  if !(Text.startsWith "http://" base || Text.startsWith "https://" base) then
    .error (.notHttp settings.api.baseUrl)
  else if settings.api.timeout = 0 then .error .zeroTimeout
  else .ok ()

/-- The settings with the backend that the environment names; a blank name is none. -/
def withApiUrl (url : Option String) (settings : Settings) : Settings :=
  match url with
  | some url =>
    if Text.allBlank url then settings
    else { settings with api := { settings.api with baseUrl := url } }
  | none => settings

end Settings

end NetworkPortal
