import NetworkPortal.Proofs.Portal.Traffic
import NetworkPortal.Proofs.View.Menu

/-! # The menu in a response

A response that shows a view has the navigation bar between two texts that the menu does not decide.
A response that shows none does not depend on the menu at all.
-/
namespace NetworkPortal

namespace Page.Navigation

theorem write_html_eq_notice_iff (navigation : Navigation) :
    navigation.html.write = "<div class=\"alert\">Failed to load menu</div>" ↔
      navigation = .failed := by
  cases navigation with
  | failed =>
    have hnotice : (html .failed).write = "<div class=\"alert\">Failed to load menu</div>" := by
      decide +kernel
    simp only [hnotice]
  | loaded dropdowns =>
    refine iff_of_false ?_ (by simp)
    intro heq
    have hstart := congrArg (fun text => text.toList.take 2) heq
    simp [html, Html.write] at hstart

end Page.Navigation

namespace Portal

open Route (decodeParameters length_of_decodeParameters)
open Settings (AllSafe)

variable {portal : Portal} {now : Time.Instant} {request : Http.Request}
  {backend backend' : Backend} {action : Action} {parameters : List (String × String)}

/-- A view other than that of the health is shown: there is one at the path of the request, and the
parameters in the path can be decoded for it. -/
def ReachesView (portal : Portal) (request : Http.Request) : Prop :=
  ∃ action parameters values, dispatch? portal.table request.path = some (action, parameters) ∧
    action ≠ .health ∧ decodeParameters parameters = .ok values

def AsksAsTab (portal : Portal) (backend : Backend) (request : Http.Request) (url : String) :
    Prop :=
  ∃ parameters app model id,
    dispatch? portal.table request.path = some (.resourceDetail, parameters) ∧
    decodeParameters parameters = .ok [app, model, id] ∧ AllSafe [app, model, id] ∧
    View.IsTabUrl portal.settings.api backend app model id url

/-- What an action answers with shows a view that the menu decides the bar of. -/
theorem exists_view_of_act (now : Time.Instant) {mounts : List Route.Mount} {segments values : List String}
    (hfound : Found mounts segments action parameters) (haction : action ≠ .health)
    (hdecoded : decodeParameters parameters = .ok values)
    (hsame : View.SameBesideMenu portal.settings.api backend backend')
    (hroute : dispatch? portal.table request.path = some (action, parameters))
    (htab : ¬ portal.AsksAsTab backend request portal.settings.api.menuUrl) :
    ∃ view : View, ∀ b ∈ [backend, backend'],
      ((portal.act now action parameters).value b).1 =
        viewContent (view.under ((View.loadNavigation portal.settings.api).value b)) := by
  cases hfound with
  | health => exact absurd rfl haction
  | home =>
    obtain ⟨view, hview⟩ := View.framesMenu_home portal.settings.api
    exact ⟨view, fun b hb => congrArg viewContent (hview b hb)⟩
  | installedPlugins =>
    obtain ⟨view, hview⟩ := View.framesMenu_installedPlugins portal.settings.api
      portal.table.mounts
    exact ⟨view, fun b hb => congrArg viewContent (hview b hb)⟩
  | @plugin m =>
    obtain ⟨view, hview⟩ := View.framesMenu_pluginPage portal.settings.api m
      (portal.table.resolve m portal.environment).1
    exact ⟨view, fun b hb => congrArg viewContent (hview b hb)⟩
  | resourceList =>
    obtain ⟨app, model, rfl⟩ := List.length_eq_two.mp (length_of_decodeParameters hdecoded)
    obtain ⟨view, hview⟩ := View.framesMenu_list hsame app model
    refine ⟨view, fun b hb => ?_⟩
    rw [← hview b hb]
    simp only [act, hdecoded, Fetch.value_bind, Fetch.value_pure]
  | resourceDetail =>
    obtain ⟨app, model, id, rfl⟩ := List.length_eq_three.mp (length_of_decodeParameters hdecoded)
    obtain ⟨view, hview⟩ := View.framesMenu_detail hsame now fun hsafe hurl =>
      htab ⟨_, app, model, id, hroute, hdecoded, hsafe, hurl⟩
    refine ⟨view, fun b hb => ?_⟩
    rw [← hview b hb, value_act_resourceDetail hdecoded]

theorem value_act_of_not_view {mounts : List Route.Mount} {segments : List String}
    (hfound : Found mounts segments action parameters)
    (hnot : action = .health ∨ ∃ name, decodeParameters parameters = .error name)
    (b b' : Backend) :
    (portal.act now action parameters).value b = (portal.act now action parameters).value b' := by
  rcases hnot with rfl | ⟨name, herror⟩
  · rfl
  · cases hfound with
    | resourceList => simp only [act, herror, Fetch.value_pure]
    | resourceDetail => simp only [act, herror, Fetch.value_pure]
    | health => rfl
    | home => cases herror
    | installedPlugins => cases herror
    | plugin => cases herror

theorem value_answer_of_view {view : View} (hget : request.method = "GET")
    (hroute : dispatch? portal.table request.path = some (action, parameters))
    (hview : ((portal.act now action parameters).value backend).1 = viewContent view) :
    ((portal.answer now request).value backend).1 = portal.viewResponse request view := by
  rw [value_answer_get hget hroute]
  simp only [hview]
  rfl

theorem body_viewResponse (view : View) :
    (portal.viewResponse request view).body = view.text := rfl

theorem response_eq_of_not_reachesView (now : Time.Instant) (backend backend' : Backend)
    (htable : portal.table.Reachable) (hget : request.method = "GET") (hnot : ¬ portal.ReachesView request) :
    ((portal.answer now request).value backend).1 =
      ((portal.answer now request).value backend').1 := by
  cases hroute : dispatch? portal.table request.path with
  | none =>
    rw [value_answer_of_none (isRead_of_get hget) hroute,
      value_answer_of_none (isRead_of_get hget) hroute]
  | some found =>
    obtain ⟨action, parameters⟩ := found
    obtain ⟨segments, _, hfound⟩ := found_of_dispatch? htable hroute
    have hnone : action = .health ∨ ∃ name, decodeParameters parameters = .error name := by
      by_cases haction : action = .health
      · exact Or.inl haction
      · cases hdecoded : decodeParameters parameters with
        | error name => exact Or.inr ⟨name, rfl⟩
        | ok values => exact absurd ⟨action, parameters, values, hroute, haction, hdecoded⟩ hnot
    rw [value_answer_get hget hroute, value_answer_get hget hroute,
      value_act_of_not_view hfound hnone backend backend']

theorem exists_view_of_reachesView (now : Time.Instant) (htable : portal.table.Reachable)
    (hget : request.method = "GET") (hreaches : portal.ReachesView request)
    (hsame : View.SameBesideMenu portal.settings.api backend backend')
    (htab : ¬ portal.AsksAsTab backend request portal.settings.api.menuUrl) :
    ∃ view : View, ∀ b ∈ [backend, backend'],
      ((portal.answer now request).value b).1 = portal.viewResponse request
        (view.under ((View.loadNavigation portal.settings.api).value b)) := by
  obtain ⟨action, parameters, values, hroute, haction, hdecoded⟩ := hreaches
  obtain ⟨segments, _, hfound⟩ := found_of_dispatch? htable hroute
  obtain ⟨view, hview⟩ := exists_view_of_act now hfound haction hdecoded hsame hroute htab
  exact ⟨view, fun b hb => value_answer_of_view hget hroute (hview b hb)⟩

def bar (portal : Portal) (backend : Backend) : String :=
  ((View.loadNavigation portal.settings.api).value backend).html.write

/-- With two backends that differ in their answer for the menu at most, a page that asks for no tab
at the address of the menu has the same status and, around the navigation bar of each menu, the same
texts. The bar is the notice that there is no menu exactly if the menu could not be fetched or is no
JSON. What is no page of a view is the same throughout. -/
theorem menu_decides_bar_only (portal : Portal) (now : Time.Instant) (request : Http.Request)
    (backend backend' : Backend) (htable : portal.table.Reachable)
    (hget : request.method = "GET")
    (hsame : ∀ url, url ≠ portal.settings.api.menuUrl → backend url = backend' url)
    (htab : ¬ portal.AsksAsTab backend request portal.settings.api.menuUrl) :
    ((portal.answer now request).value backend).1.status =
      ((portal.answer now request).value backend').1.status ∧
    (portal.ReachesView request → ∃ before after, ∀ b ∈ [backend, backend'],
      ((portal.answer now request).value b).1.body = before ++ portal.bar b ++ after) ∧
    (¬ portal.ReachesView request →
      ((portal.answer now request).value backend).1 =
        ((portal.answer now request).value backend').1) ∧
    ∀ b ∈ [backend, backend'],
      (portal.bar b = "<div class=\"alert\">Failed to load menu</div>" ↔
        ∃ error, (Fetch.json portal.settings.api.menuUrl).value b = .error error) ∧
      ∀ document, (Fetch.json portal.settings.api.menuUrl).value b = .ok document →
        portal.bar b = (Page.Navigation.loaded (Menu.tree (Menu.ofJson document))).html.write := by
  have hviews (hreaches : portal.ReachesView request) :=
    exists_view_of_reachesView now htable hget hreaches hsame htab
  have hnone := response_eq_of_not_reachesView now backend backend' htable hget
  refine ⟨?_, ?_, hnone, ?_⟩
  · by_cases hreaches : portal.ReachesView request
    · obtain ⟨view, hview⟩ := hviews hreaches
      rw [hview backend (by simp), hview backend' (by simp), status_viewResponse,
        status_viewResponse, View.under, View.under]
    · rw [hnone hreaches]
  · intro hreaches
    obtain ⟨view, hview⟩ := hviews hreaches
    refine ⟨Page.opening view.title, Page.closing view.body, fun b hb => ?_⟩
    rw [hview b hb, body_viewResponse, View.text_under, bar]
  · intro b _
    rw [bar, Page.Navigation.write_html_eq_notice_iff]
    rcases View.loadNavigation_cases portal.settings.api b with ⟨document, hjson, hbar⟩ |
      ⟨⟨error, hjson⟩, hbar⟩
    · rw [hjson, hbar]
      exact ⟨by simp, fun other hother => by rw [Except.ok.inj hother]⟩
    · rw [hjson, hbar]
      exact ⟨by simp, fun other hother => by cases hother⟩

def emptyMenuBackend : Backend := fun url =>
  if url = "http://localhost:8080/api/get-menu/" then .body "[]" else tabBackend url

theorem site_menu_decides_bar_only :
    (∀ url, url ≠ basePortal.settings.api.menuUrl → tabBackend url = emptyMenuBackend url) ∧
    ¬ basePortal.AsksAsTab tabBackend siteRequest basePortal.settings.api.menuUrl ∧
    ∃ before after,
      ((basePortal.answer ⟨0, 0, 0⟩ siteRequest).value tabBackend).1.body =
        before ++ "<div class=\"alert\">Failed to load menu</div>" ++ after ∧
      ((basePortal.answer ⟨0, 0, 0⟩ siteRequest).value emptyMenuBackend).1.body =
        before ++ ("<nav class=\"navbar\"><a class=\"navbar-brand\" href=\"/\">Netfront</a>" ++
          "</nav>") ++ after := by
  have hmenu : basePortal.settings.api.menuUrl = "http://localhost:8080/api/get-menu/" := by
    decide +kernel
  have hsame : ∀ url, url ≠ basePortal.settings.api.menuUrl →
      tabBackend url = emptyMenuBackend url := by
    intro url hurl
    rw [hmenu] at hurl
    rw [emptyMenuBackend, if_neg hurl]
  have hroute : dispatch? basePortal.table siteRequest.path =
      some (.resourceDetail, [("app_name", "dcim"), ("model_name", "sites"), ("id", "5")]) := rfl
  have htab : ¬ basePortal.AsksAsTab tabBackend siteRequest basePortal.settings.api.menuUrl := by
    rintro ⟨parameters, app, model, id, hroute', hdecoded, -, slug, hhas, hurl⟩
    obtain ⟨-, rfl⟩ := Prod.mk.inj (Option.some.inj (hroute.symm.trans hroute'))
    have hnames : ["dcim", "sites", "5"] = [app, model, id] := Except.ok.inj hdecoded
    simp only [List.cons.injEq, and_true] at hnames
    obtain ⟨rfl, rfl, rfl⟩ := hnames
    have hslug : View.slugAt basePortal.settings.api tabBackend "dcim" "sites" "5" =
      some "ams" := by decide +kernel
    obtain rfl := Option.some.inj (hslug.symm.trans (View.slugAt_eq_some_iff.mpr hhas))
    exact absurd hurl (by decide +kernel)
  have hdecides := menu_decides_bar_only basePortal ⟨0, 0, 0⟩ siteRequest tabBackend
    emptyMenuBackend .base rfl hsame htab
  obtain ⟨before, after, hbody⟩ := hdecides.2.1 ⟨_, _, _, hroute, nofun, rfl⟩
  refine ⟨hsame, htab, before, after, ?_, ?_⟩
  · have hbar : basePortal.bar tabBackend = "<div class=\"alert\">Failed to load menu</div>" := by
      decide +kernel
    rw [← hbar]
    exact hbody tabBackend (by simp)
  · have hbar : basePortal.bar emptyMenuBackend =
        "<nav class=\"navbar\"><a class=\"navbar-brand\" href=\"/\">Netfront</a>" ++
          "</nav>" := by
      decide +kernel
    rw [← hbar]
    exact hbody emptyMenuBackend (by simp)

end Portal

end NetworkPortal
