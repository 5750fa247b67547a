import NetworkPortal.Proofs.Portal.Answer
import NetworkPortal.Proofs.View.Frame

/-! # Responses of the detail route

A response to a request for a resource is the page that the menu and the resource frame, whatever
else the backend answers. Two backends that agree on these two addresses give responses that differ
in the gaps for plugins at most, and not at all where no resource is shown.
-/
namespace NetworkPortal.Portal

open Settings (isSafeSegment)

variable {portal : Portal} {now : Time.Instant} {request : Http.Request} {backend : Backend}
  {parameters : List (String × String)}

def viewResponse (portal : Portal) (request : Http.Request) (view : View) : Http.Response :=
  .ofContent view.status (some (.html view.text)) (portal.origins.headers request) true

theorem status_viewResponse (view : View) :
    (portal.viewResponse request view).status = view.status := rfl

theorem value_act_resourceDetail {app model id : String}
    (hdecoded : Route.decodeParameters parameters = .ok [app, model, id]) :
    (portal.act now .resourceDetail parameters).value backend =
      (viewContent ((View.detail portal.settings.api now app model id).value backend), portal) := by
  simp only [act, hdecoded, Fetch.value_bind, Fetch.value_pure]

theorem value_answer_detail {app model id : String} (hget : request.method = "GET")
    (hroute : dispatch? portal.table request.path = some (.resourceDetail, parameters))
    (hdecoded : Route.decodeParameters parameters = .ok [app, model, id]) :
    (portal.answer now request).value backend =
      (portal.viewResponse request
        ((View.detail portal.settings.api now app model id).value backend), portal) := by
  rw [value_answer_get hget hroute, value_act_resourceDetail hdecoded]
  rfl

/-- Two backends with the same menu and the same resource give responses with one frame: the same
status, title, navigation bar, heading, dates and tables. Without a resource to show, the responses
are the same throughout. -/
theorem detail_response_framed (portal : Portal) (now : Time.Instant) (request : Http.Request)
    (parameters : List (String × String)) (app model id : String) (backend backend' : Backend)
    (hget : request.method = "GET")
    (hroute : dispatch? portal.table request.path = some (.resourceDetail, parameters))
    (hdecoded : Route.decodeParameters parameters = .ok [app, model, id])
    (hmenu : backend portal.settings.api.menuUrl = backend' portal.settings.api.menuUrl)
    (hobject : backend (portal.settings.api.objectUrl app model id) =
      backend' (portal.settings.api.objectUrl app model id)) :
    let response := ((portal.answer now request).value backend).1
    let response' := ((portal.answer now request).value backend').1
    let found := View.resourceAt (portal.settings.api.objectUrl app model id) backend
    let navigation := (View.loadNavigation portal.settings.api).value backend
    response.status = response'.status ∧
    ([app, model, id].all isSafeSegment = false ∨ found = none → response = response') ∧
    ∀ resource, [app, model, id].all isSafeSegment = true → found = some resource →
      ∃ added added',
        response = portal.viewResponse request
          ((Page.Frame.ofResource navigation resource now).fill added) ∧
        response' = portal.viewResponse request
          ((Page.Frame.ofResource navigation resource now).fill added') := by
  simp only [value_answer_detail hget hroute hdecoded]
  have hsame := View.detail_congr_of_missing hmenu hobject now
  refine ⟨?_, ?_, ?_⟩
  · rcases View.missing_or_exists_resource portal.settings.api app model id backend with
      hmissing | ⟨hsafe, resource, hfound⟩
    · rw [hsame hmissing]
    · obtain ⟨_, _, hadded, hadded'⟩ := View.exists_additions hmenu hobject now hsafe hfound
      rw [hadded, hadded', status_viewResponse, status_viewResponse]
      rfl
  · intro hmissing
    rw [hsame hmissing]
  · intro resource hsafe hfound
    obtain ⟨added, added', hadded, hadded'⟩ := View.exists_additions hmenu hobject now hsafe hfound
    exact ⟨added, added', by rw [hadded], by rw [hadded']⟩

def basePortal : Portal where
  settings := .defaults "plugins"
  origins := .any
  table := .base
  environment := ⟨{}, fun _ => 0⟩

def siteRequest : Http.Request := ⟨"GET", "/dcim/sites/5", []⟩

/-- A backend that holds one site and nothing else. -/
def bareBackend : Backend := fun url =>
  if url = "http://localhost:8080/api/dcim/sites/5/" then .body "\x7b\"slug\":\"ams\"\x7d"
  else .refused 404

/-- The same site with a fragment and a tab document that is no JSON. -/
def pluginBackend : Backend := fun url =>
  if url = "http://localhost:8080/api/dcim/sites/5/plugin_full_width_fragment/" then .body "<hr>"
  else if url = "http://localhost:8080/dcim/sites/ams/?format=json" then .body "["
  else bareBackend url

theorem site_response_framed :
    dispatch? basePortal.table siteRequest.path =
      some (.resourceDetail, [("app_name", "dcim"), ("model_name", "sites"), ("id", "5")]) ∧
    bareBackend basePortal.settings.api.menuUrl = pluginBackend basePortal.settings.api.menuUrl ∧
    ∃ frame added added',
      ((basePortal.answer ⟨0, 0, 0⟩ siteRequest).value bareBackend).1 =
        basePortal.viewResponse siteRequest (Page.Frame.fill frame added) ∧
      ((basePortal.answer ⟨0, 0, 0⟩ siteRequest).value pluginBackend).1 =
        basePortal.viewResponse siteRequest (frame.fill added') := by
  have hroute : dispatch? basePortal.table siteRequest.path =
      some (.resourceDetail, [("app_name", "dcim"), ("model_name", "sites"), ("id", "5")]) := rfl
  have hmenu : bareBackend basePortal.settings.api.menuUrl =
      pluginBackend basePortal.settings.api.menuUrl := by decide +kernel
  have hobject : bareBackend (basePortal.settings.api.objectUrl "dcim" "sites" "5") =
      pluginBackend (basePortal.settings.api.objectUrl "dcim" "sites" "5") := by decide +kernel
  have hslug : (View.resourceAt (basePortal.settings.api.objectUrl "dcim" "sites" "5")
      bareBackend).bind Resource.slug? = some "ams" := by decide +kernel
  obtain ⟨resource, hfound, _⟩ := Option.bind_eq_some_iff.mp hslug
  have hframed := detail_response_framed basePortal ⟨0, 0, 0⟩ siteRequest _ "dcim" "sites" "5"
    bareBackend pluginBackend rfl hroute rfl hmenu hobject
  obtain ⟨added, added', hadded, hadded'⟩ := hframed.2.2 resource (by decide +kernel) hfound
  exact ⟨hroute, hmenu, _, added, added', hadded, hadded'⟩

end NetworkPortal.Portal
