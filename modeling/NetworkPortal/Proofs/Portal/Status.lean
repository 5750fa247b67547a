import NetworkPortal.Proofs.Portal.Traffic
import NetworkPortal.Proofs.View.Status

/-! # The status of a response

Three statuses are possible on the routes of lists and resources, and the names in the path and the
answer at the primary address decide between them. What a response without resources shows comes from
the menu and from the names.
-/
namespace NetworkPortal.Portal

open Route (decodeParameters length_of_decodeParameters)
open Settings (AllSafe)
open View (TurnsOut documentAt objectAt)

/-- The statuses of the responses that a portal gives to one request for what `names` name, according
to what the backend holds at the primary address. -/
structure DecidesStatus (portal : Portal) (respond : Backend → Http.Response)
    (names : List String) (url : String) (Shows : Backend → Prop) : Prop where
  notFound_iff : ∀ backend, (respond backend).status = 404 ↔ ¬ AllSafe names
  unavailable_iff : ∀ backend, (respond backend).status = 502 ↔ AllSafe names ∧ ¬ Shows backend
  ok_iff : ∀ backend, (respond backend).status = 200 ↔ AllSafe names ∧ Shows backend
  body_notFound : ∀ backend, (respond backend).status = 404 →
    (respond backend).body = Page.layout "Not Found"
      ((View.loadNavigation portal.settings.api).value backend) (View.notice "Not found")
  body_unavailable : ∀ backend, (respond backend).status = 502 →
    (respond backend).body = Page.layout "Error"
      ((View.loadNavigation portal.settings.api).value backend)
      (View.notice ("Failed to load " ++ url))
  /-- Responses that show nothing differ in their status and in the menu at most. -/
  congr_of_not_ok : ∀ backend backend', (respond backend).status ≠ 200 →
    (respond backend).status = (respond backend').status →
    backend portal.settings.api.menuUrl = backend' portal.settings.api.menuUrl →
    respond backend = respond backend'

variable {portal : Portal} {now : Time.Instant} {request : Http.Request} {backend : Backend}
  {parameters : List (String × String)}

theorem value_answer_list {app model : String} (hget : request.method = "GET")
    (hroute : dispatch? portal.table request.path = some (.resourceList, parameters))
    (hdecoded : decodeParameters parameters = .ok [app, model]) :
    (portal.answer now request).value backend =
      (portal.viewResponse request
        ((View.list portal.settings.api app model).value backend), portal) := by
  have hact : (portal.act now .resourceList parameters).value backend =
      (viewContent ((View.list portal.settings.api app model).value backend), portal) := by
    simp only [act, hdecoded, Fetch.value_bind, Fetch.value_pure]
  rw [value_answer_get hget hroute, hact]
  rfl

theorem decidesStatus_of_turnsOut {respond : Backend → Http.Response} {view : Backend → View}
    {names : List String} {url : String} {Shows : Backend → Prop}
    (hview : ∀ backend, TurnsOut ((View.loadNavigation portal.settings.api).value backend) names
      url (Shows backend) (view backend))
    (hrespond : ∀ backend, respond backend = portal.viewResponse request (view backend)) :
    DecidesStatus portal respond names url Shows where
  notFound_iff backend := by
    rw [hrespond]
    exact (hview backend).status_eq_404_iff
  unavailable_iff backend := by
    rw [hrespond]
    exact (hview backend).status_eq_502_iff
  ok_iff backend := by
    rw [hrespond]
    exact (hview backend).status_eq_200_iff
  body_notFound backend := by
    rw [hrespond]
    intro hstatus
    rw [(hview backend).eq_notFound hstatus]
    rfl
  body_unavailable backend := by
    rw [hrespond]
    intro hstatus
    rw [(hview backend).eq_unavailable hstatus]
    rfl
  congr_of_not_ok backend backend' := by
    rw [hrespond, hrespond]
    intro hnot hstatus hmenu
    have hview' := hview backend'
    rw [← View.value_loadNavigation_congr hmenu] at hview'
    rw [(hview backend).eq_of_status_eq hview' hnot hstatus]

/-- A request for a list or a resource is answered with status 404 exactly if a name in its path is
not safe, else with 502 exactly if the primary address does not hold a document, or for a resource an
object, and else with 200. The page with status 404 or 502 shows a notice below the bar and nothing
that the backend holds elsewhere. -/
theorem status_by_names_and_primary (portal : Portal) (now : Time.Instant)
    (request : Http.Request) (htable : portal.table.Reachable) (hget : request.method = "GET") :
    let api := portal.settings.api
    let respond := fun backend => ((portal.answer now request).value backend).1
    (∀ parameters values,
      dispatch? portal.table request.path = some (.resourceList, parameters) →
      decodeParameters parameters = .ok values →
      ∃ app model, values = [app, model] ∧
        DecidesStatus portal respond [app, model] (api.listUrl app model)
          fun backend => (documentAt (api.listUrl app model) backend).isSome) ∧
    ∀ parameters values,
      dispatch? portal.table request.path = some (.resourceDetail, parameters) →
      decodeParameters parameters = .ok values →
      ∃ app model id, values = [app, model, id] ∧
        DecidesStatus portal respond [app, model, id] (api.objectUrl app model id)
          fun backend => (objectAt (api.objectUrl app model id) backend).isSome := by
  intro api respond
  constructor
  · intro parameters values hroute hdecoded
    obtain ⟨_, _, hfound⟩ := found_of_dispatch? htable hroute
    cases hfound with | resourceList =>
    obtain ⟨app, model, rfl⟩ := List.length_eq_two.mp (length_of_decodeParameters hdecoded)
    exact ⟨app, model, rfl, decidesStatus_of_turnsOut
      (fun backend => View.turnsOut_list api backend app model)
      fun backend => congrArg Prod.fst (value_answer_list hget hroute hdecoded)⟩
  · intro parameters values hroute hdecoded
    obtain ⟨_, _, hfound⟩ := found_of_dispatch? htable hroute
    cases hfound with | resourceDetail =>
    obtain ⟨app, model, id, rfl⟩ := List.length_eq_three.mp (length_of_decodeParameters hdecoded)
    exact ⟨app, model, id, rfl, decidesStatus_of_turnsOut
      (fun backend => View.turnsOut_detail api backend now app model id)
      fun backend => congrArg Prod.fst (value_answer_detail hget hroute hdecoded)⟩

/-- A backend that answers for one site with an array, and with a fragment for it. -/
def arrayBackend : Backend := fun url =>
  if url = "http://localhost:8080/api/dcim/sites/5/" then .body "[\x7b\"name\":\"secret\"\x7d]"
  else if url = "http://localhost:8080/api/dcim/sites/5/plugin_full_width_fragment/" then
    .body "<hr>"
  else .refused 404

/-- The site is not shown, but a notice with its address, and the response is the one that a backend
without any site gives. -/
theorem array_is_no_site :
    basePortal.table.Reachable ∧ siteRequest.method = "GET" ∧
    dispatch? basePortal.table siteRequest.path =
      some (.resourceDetail, [("app_name", "dcim"), ("model_name", "sites"), ("id", "5")]) ∧
    decodeParameters [("app_name", "dcim"), ("model_name", "sites"), ("id", "5")] =
      .ok ["dcim", "sites", "5"] ∧
    ((basePortal.answer ⟨0, 0, 0⟩ siteRequest).value arrayBackend).1.status = 502 ∧
    ((basePortal.answer ⟨0, 0, 0⟩ siteRequest).value arrayBackend).1.body =
      Page.layout "Error" .failed
        "<div class=\"alert\">Failed to load http://localhost:8080/api/dcim/sites/5/</div>" ∧
    ((basePortal.answer ⟨0, 0, 0⟩ siteRequest).value arrayBackend).1 =
      ((basePortal.answer ⟨0, 0, 0⟩ siteRequest).value fun _ => .refused 404).1 := by
  have hroute : dispatch? basePortal.table siteRequest.path =
      some (.resourceDetail, [("app_name", "dcim"), ("model_name", "sites"), ("id", "5")]) := rfl
  have hdecoded : decodeParameters [("app_name", "dcim"), ("model_name", "sites"), ("id", "5")] =
      .ok ["dcim", "sites", "5"] := rfl
  obtain ⟨app, model, id, hnames, hdecides⟩ :=
    (status_by_names_and_primary basePortal ⟨0, 0, 0⟩ siteRequest .base rfl).2 _ _ hroute hdecoded
  simp only [List.cons.injEq, and_true] at hnames
  obtain ⟨rfl, rfl, rfl⟩ := hnames
  have hstatus := (hdecides.unavailable_iff arrayBackend).mpr ⟨by decide +kernel, by decide +kernel⟩
  have hstatus' := (hdecides.unavailable_iff fun _ => .refused 404).mpr
    ⟨by decide +kernel, by decide +kernel⟩
  have hnotice : View.notice ("Failed to load " ++
      basePortal.settings.api.objectUrl "dcim" "sites" "5") =
        "<div class=\"alert\">Failed to load http://localhost:8080/api/dcim/sites/5/</div>" := by
    decide +kernel
  refine ⟨.base, rfl, hroute, hdecoded, hstatus, ?_, ?_⟩
  · rw [hdecides.body_unavailable arrayBackend hstatus, hnotice]
    rfl
  · exact hdecides.congr_of_not_ok _ _ (by rw [hstatus]; decide) (hstatus.trans hstatus'.symm)
      (by decide +kernel)

end NetworkPortal.Portal
