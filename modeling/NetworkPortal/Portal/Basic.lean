import NetworkPortal.Http.Origin
import NetworkPortal.Route.Registration
import NetworkPortal.Route.Router
import NetworkPortal.View.Detail

/-! # The portal

A portal has settings, a route table and the plugin pages loaded so far. It answers one request
after another; all that a request can change is which plugin pages are loaded.
-/
namespace NetworkPortal

inductive Action where
  | health
  | home
  | resourceList
  | resourceDetail
  | installedPlugins
  | plugin (mount : Route.Mount)

def Action.ofTarget? : Route.Target → Option Action
  | .home => some .home
  | .resourceList => some .resourceList
  | .resourceDetail => some .resourceDetail
  | .installedPlugins => some .installedPlugins
  | .plugin mount => some (.plugin mount)
  | .group => none

structure Portal where
  settings : Settings
  origins : Http.OriginPolicy
  table : Route.Table
  environment : Plugin.Environment

inductive Portal.Fault where
  | routes (fault : Route.RouterFault)
  | wildcardOrigin
  deriving DecidableEq

namespace Portal

def routes (table : Route.Table) : List (String × Action) :=
  ("/health", .health) ::
    table.flatten.filterMap fun (path, target) => (Action.ofTarget? target).map (path, ·)

def installed (settings : Settings) (storage : Storage) :
    Except Storage.Fault (List Plugin.Registration) :=
  if settings.plugins.enabled then Plugin.discover storage settings.plugins.directory else .ok []

def build (settings : Settings) (plugins : List Plugin.Registration)
    (environment : Plugin.Environment) : Except Fault Portal :=
  let table := Route.Table.base.register plugins
  match Route.Router.build (routes table) with
  | .error fault => .error (.routes fault)
  | .ok _ =>
    match Http.OriginPolicy.ofOrigins? settings.server.origins with
    | none => .error .wildcardOrigin
    | some origins => .ok { settings, origins, table, environment }

def dispatch? (table : Route.Table) (path : String) :
    Option (Action × List (String × String)) :=
  match Route.Router.build (routes table) with
  | .ok router => router.dispatch? path
  | .error _ => none

/-! ## Answers -/

def healthBody : String := "\x7b\"status\":\"ok\",\"version\":\"0.1.0\"\x7d"

def viewContent (view : View) : Nat × Http.Content := (view.status, .html view.text)

def badParameter (name : String) : Nat × Http.Content :=
  (400, .plain ("Invalid URL: Invalid UTF-8 in \x60" ++ name ++ "\x60"))

/-- What an action answers. Parameters come with the paths that have them. -/
def act (portal : Portal) (now : Time.Instant) (action : Action)
    (parameters : List (String × String)) : Fetch ((Nat × Http.Content) × Portal) := do
  let api := portal.settings.api
  match action with
  | .health => return ((200, .json healthBody), portal)
  | .home => return (viewContent (← View.home api), portal)
  | .installedPlugins =>
    return (viewContent (← View.installedPlugins api portal.table.mounts), portal)
  | .plugin mount =>
    let (page, table, environment) := portal.table.resolve mount portal.environment
    return (viewContent (← View.pluginPage api mount page), { portal with table, environment })
  | .resourceList =>
    match Route.decodeParameters parameters with
    | .ok [app, model] => return (viewContent (← View.list api app model), portal)
    | .ok _ => return ((500, .plain ""), portal)
    | .error name => return (badParameter name, portal)
  | .resourceDetail =>
    match Route.decodeParameters parameters with
    | .ok [app, model, id] => return (viewContent (← View.detail api now app model id), portal)
    | .ok _ => return ((500, .plain ""), portal)
    | .error name => return (badParameter name, portal)

def allowHeader : String × String := ("allow", "GET,HEAD")

def isRead (method : String) : Bool := method == "GET" || method == "HEAD"

/-- The response to a request and the portal after it. A question about other origins is answered
for every path, before any action. -/
def answer (portal : Portal) (now : Time.Instant) (request : Http.Request) :
    Fetch (Http.Response × Portal) := do
  let origin := portal.origins.headers request
  let found := dispatch? portal.table request.path
  if request.method = "OPTIONS" then
    let known := if found.isSome then [allowHeader] else []
    return (.ofContent 200 none (known ++ Http.OriginPolicy.preflightHeaders ++ origin) true,
      portal)
  else
    match found with
    | none => return (.ofContent 404 none origin true, portal)
    | some (action, parameters) =>
      if isRead request.method then
        let ((status, content), portal) ← portal.act now action parameters
        return (.ofContent status (some content) origin (request.method == "GET"), portal)
      else return (.ofContent 405 none (allowHeader :: origin) true, portal)

end Portal

end NetworkPortal
