import NetworkPortal.Proofs.Portal.Detail
import NetworkPortal.Proofs.Portal.Dispatch
import NetworkPortal.Proofs.View.Traffic

/-! # What a request makes the portal ask for

The addresses that the portal asks its backend for are decided by the action that is found for the
path of the request, by its decoded parameters, and by the backend's own answers. All of them begin
with the base address, but for complete addresses that a tab document gives.
-/
namespace NetworkPortal

open Route (decodeParameters length_of_decodeParameters)
open Settings (Api HasScheme)

def Action.IsPage : Action → Prop
  | .home | .installedPlugins | .plugin _ => True
  | _ => False

namespace Portal

/-- The addresses, counted with repetitions, that a request makes a portal ask for. -/
structure ExactTraffic (portal : Portal) (backend : Backend) (request : Http.Request)
    (asked : Multiset String) : Prop where
  unrouted : dispatch? portal.table request.path = none → asked = 0
  undecoded : ∀ action parameters name,
    dispatch? portal.table request.path = some (action, parameters) →
    decodeParameters parameters = .error name → asked = 0
  health : ∀ parameters, dispatch? portal.table request.path = some (.health, parameters) →
    asked = 0
  page : ∀ action parameters,
    dispatch? portal.table request.path = some (action, parameters) → action.IsPage →
    asked = {portal.settings.api.menuUrl}
  list : ∀ parameters, dispatch? portal.table request.path = some (.resourceList, parameters) →
    (∃ name, decodeParameters parameters = .error name) ∨
    ∃ app model, decodeParameters parameters = .ok [app, model] ∧
      View.ListTraffic portal.settings.api app model asked
  detail : ∀ parameters,
    dispatch? portal.table request.path = some (.resourceDetail, parameters) →
    (∃ name, decodeParameters parameters = .error name) ∨
    ∃ app model id, decodeParameters parameters = .ok [app, model, id] ∧
      View.DetailTraffic portal.settings.api backend app model id asked

/-- An address that begins with the base address, or that a tab document among `asked` gives as it
is. -/
def WithinReach (api : Api) (backend : Backend) (asked : Multiset String) (url : String) : Prop :=
  api.origin.toList <+: url.toList ∨
    HasScheme url ∧ ∃ document ∈ asked, ∃ tab ∈ View.tabsAt document backend, tab.url = url

variable {portal : Portal} {backend : Backend} {request : Http.Request} {action : Action}
  {parameters : List (String × String)}

theorem isPrefix_of_eq_append {api : Api} {url more : String} (h : url = api.origin ++ more) :
    api.origin.toList <+: url.toList := by
  rw [h, String.toList_append]
  exact List.prefix_append _ _

theorem withinReach_of_listTraffic {api : Api} {app model : String} {asked : Multiset String}
    (h : View.ListTraffic api app model asked) :
    ∀ url ∈ asked, WithinReach api backend asked url := by
  have hmenu : api.origin.toList <+: api.menuUrl.toList := isPrefix_of_eq_append rfl
  have hlist := isPrefix_of_eq_append (Settings.listUrl_eq api app model)
  intro url hurl
  left
  by_cases hsafe : Settings.AllSafe [app, model]
  · rw [h.loaded hsafe] at hurl
    simp only [Multiset.insert_eq_cons, Multiset.mem_cons, Multiset.mem_singleton] at hurl
    rcases hurl with rfl | rfl
    · exact hmenu
    · exact hlist
  · rw [h.refused hsafe, Multiset.mem_singleton] at hurl
    exact hurl ▸ hmenu

theorem withinReach_of_detailTraffic {api : Api} {app model id : String}
    {asked : Multiset String} (h : View.DetailTraffic api backend app model id asked) :
    ∀ url ∈ asked, WithinReach api backend asked url := by
  have hmenu : api.origin.toList <+: api.menuUrl.toList := isPrefix_of_eq_append rfl
  have hobject := isPrefix_of_eq_append (Settings.objectUrl_eq api app model id)
  have hmore {url : String} (hurl : api.origin.toList <+: url.toList) (more : String) :
      api.origin.toList <+: (url ++ more).toList := by
    rw [String.toList_append]
    exact hurl.trans (List.prefix_append _ _)
  intro url hurl
  by_cases hsafe : Settings.AllSafe [app, model, id]
  · by_cases hslug : ∃ slug, View.HasSlug api backend app model id slug
    · obtain ⟨slug, hslug⟩ := hslug
      have hview := isPrefix_of_eq_append (Settings.slugViewUrl_eq api app model slug)
      have hasked := h.slugged hsafe slug hslug
      have hdocument : api.slugViewUrl app model slug ++ "?format=json" ∈ asked := by
        rw [hasked]
        simp
      rw [hasked] at hurl
      rcases Multiset.mem_add.mp hurl with hurl | htab
      · left
        simp only [Multiset.insert_eq_cons, Multiset.mem_cons, Multiset.mem_singleton] at hurl
        rcases hurl with rfl | rfl | rfl | rfl | rfl
        · exact hmenu
        · exact hobject
        · exact hmore hobject "plugin_full_width_fragment/"
        · exact hmore hview "?fragment=true"
        · exact hmore hview "?format=json"
      · obtain ⟨tab, hmem, rfl⟩ := List.mem_map.mp (Multiset.mem_coe.mp htab)
        by_cases hscheme : HasScheme tab.url
        · right
          rw [Settings.absoluteUrl_of_hasScheme api hscheme]
          exact ⟨hscheme, _, hdocument, tab, hmem, rfl⟩
        · obtain ⟨more, hurl⟩ := Settings.absoluteUrl_of_not_hasScheme api hscheme
          exact Or.inl (isPrefix_of_eq_append hurl)
    · left
      rw [h.unslugged hsafe (not_exists.mp hslug)] at hurl
      simp only [Multiset.insert_eq_cons, Multiset.mem_cons, Multiset.mem_singleton] at hurl
      rcases hurl with rfl | rfl | rfl
      · exact hmenu
      · exact hobject
      · exact hmore hobject "plugin_full_width_fragment/"
  · rw [h.refused hsafe, Multiset.mem_singleton] at hurl
    exact Or.inl (hurl ▸ hmenu)

theorem ExactTraffic.withinReach {asked : Multiset String}
    (h : ExactTraffic portal backend request asked) :
    ∀ url ∈ asked, WithinReach portal.settings.api backend asked url := by
  have hnone (hempty : asked = 0) :
      ∀ url ∈ asked, WithinReach portal.settings.api backend asked url := by
    rw [hempty]
    intro url hurl
    exact absurd hurl (Multiset.notMem_zero url)
  have hpage {action : Action} {parameters : List (String × String)}
      (hroute : dispatch? portal.table request.path = some (action, parameters))
      (hpage : action.IsPage) :
      ∀ url ∈ asked, WithinReach portal.settings.api backend asked url := by
    intro url hurl
    rw [h.page action parameters hroute hpage, Multiset.mem_singleton] at hurl
    exact Or.inl (isPrefix_of_eq_append hurl)
  cases hroute : dispatch? portal.table request.path with
  | none => exact hnone (h.unrouted hroute)
  | some found =>
    obtain ⟨action, parameters⟩ := found
    cases action with
    | health => exact hnone (h.health parameters hroute)
    | home => exact hpage hroute trivial
    | installedPlugins => exact hpage hroute trivial
    | plugin mount => exact hpage hroute trivial
    | resourceList =>
      rcases h.list parameters hroute with ⟨name, herror⟩ | ⟨app, model, _, htraffic⟩
      · exact hnone (h.undecoded _ parameters name hroute herror)
      · exact withinReach_of_listTraffic htraffic
    | resourceDetail =>
      rcases h.detail parameters hroute with ⟨name, herror⟩ | ⟨app, model, id, _, htraffic⟩
      · exact hnone (h.undecoded _ parameters name hroute herror)
      · exact withinReach_of_detailTraffic htraffic

/-! ## What answering asks for -/

theorem asked_act_of_isPage (now : Time.Instant) (hpage : action.IsPage) :
    (portal.act now action parameters).asked backend = [portal.settings.api.menuUrl] := by
  cases action with
  | home => simp only [act, Fetch.asked_bind, View.asked_home, Fetch.asked_pure, List.append_nil]
  | installedPlugins =>
    simp only [act, Fetch.asked_bind, View.asked_installedPlugins, Fetch.asked_pure,
      List.append_nil]
  | plugin mount =>
    simp only [act, Fetch.asked_bind, View.asked_pluginPage, Fetch.asked_pure, List.append_nil]
  | health => exact hpage.elim
  | resourceList => exact hpage.elim
  | resourceDetail => exact hpage.elim

theorem asked_act_list (now : Time.Instant) {app model : String}
    (h : decodeParameters parameters = .ok [app, model]) :
    (portal.act now .resourceList parameters).asked backend =
      (View.list portal.settings.api app model).asked backend := by
  simp only [act, h, Fetch.asked_bind, Fetch.asked_pure, List.append_nil]

theorem asked_act_detail (now : Time.Instant) {app model id : String}
    (h : decodeParameters parameters = .ok [app, model, id]) :
    (portal.act now .resourceDetail parameters).asked backend =
      (View.detail portal.settings.api now app model id).asked backend := by
  simp only [act, h, Fetch.asked_bind, Fetch.asked_pure, List.append_nil]

/-- A path whose parameters cannot be decoded is that of a list or a resource, and nothing is asked
for. -/
theorem asked_act_of_undecoded (now : Time.Instant) {mounts : List Route.Mount}
    {segments : List String} {name : String} (hfound : Found mounts segments action parameters)
    (herror : decodeParameters parameters = .error name) :
    (portal.act now action parameters).asked backend = [] := by
  cases hfound with
  | resourceList =>
    simp only [act, herror]
    rfl
  | resourceDetail =>
    simp only [act, herror]
    rfl
  | health => cases herror
  | home => cases herror
  | installedPlugins => cases herror
  | plugin => cases herror

theorem exactTraffic_answer (htable : portal.table.Reachable) (now : Time.Instant)
    (backend : Backend) (hread : isRead request.method = true) :
    ExactTraffic portal backend request ((portal.answer now request).asked backend) where
  unrouted hroute := by
    rw [asked_answer_of_none now hread hroute]
    rfl
  undecoded action parameters name hroute herror := by
    obtain ⟨segments, _, hfound⟩ := found_of_dispatch? htable hroute
    rw [asked_answer now hread hroute, asked_act_of_undecoded now hfound herror]
    rfl
  health parameters hroute := by
    rw [asked_answer now hread hroute]
    rfl
  page action parameters hroute hpage := by
    rw [asked_answer now hread hroute, asked_act_of_isPage now hpage]
    rfl
  list parameters hroute := by
    obtain ⟨segments, _, hfound⟩ := found_of_dispatch? htable hroute
    cases hfound with | resourceList =>
    cases hdecoded : decodeParameters _ with
    | error name => exact Or.inl ⟨name, rfl⟩
    | ok values =>
      match values, length_of_decodeParameters hdecoded with
      | [app, model], _ =>
        refine Or.inr ⟨app, model, rfl, ?_⟩
        rw [asked_answer now hread hroute, asked_act_list now hdecoded]
        exact View.listTraffic_list _ backend app model
  detail parameters hroute := by
    obtain ⟨segments, _, hfound⟩ := found_of_dispatch? htable hroute
    cases hfound with | resourceDetail =>
    cases hdecoded : decodeParameters _ with
    | error name => exact Or.inl ⟨name, rfl⟩
    | ok values =>
      match values, length_of_decodeParameters hdecoded with
      | [app, model, id], _ =>
        refine Or.inr ⟨app, model, id, rfl, ?_⟩
        rw [asked_answer now hread hroute, asked_act_detail now hdecoded]
        exact View.detailTraffic_detail _ backend now app model id

/-- Reading a page asks the backend for exactly the addresses that the page needs, each of them as
often as it is needed, and for none that neither begins with the base address nor is given as it is
by a tab document. -/
theorem answer_asks_exactly (portal : Portal) (now : Time.Instant) (request : Http.Request)
    (backend : Backend) (htable : portal.table.Reachable)
    (hread : isRead request.method = true) :
    ExactTraffic portal backend request ((portal.answer now request).asked backend) ∧
    ∀ url ∈ (portal.answer now request).asked backend,
      WithinReach portal.settings.api backend ((portal.answer now request).asked backend) url := by
  have hexact := exactTraffic_answer htable now backend hread
  exact ⟨hexact, hexact.withinReach⟩

/-- A backend with one site whose tab document gives a complete address and one without a host. -/
def tabBackend : Backend := fun url =>
  if url = "http://localhost:8080/dcim/sites/ams/?format=json" then
    .body ("\x7b\"tabs\":[\x7b\"a\":\x7b\"title\":\"A\",\"url\":\"/a\"\x7d," ++
      "\"b\":\x7b\"title\":\"B\",\"url\":\"http://x/b\"\x7d\x7d]\x7d")
  else bareBackend url

def siteHead : Http.Request := ⟨"HEAD", "/dcim/sites/5", []⟩

theorem siteHead_asks_exactly :
    basePortal.table.Reachable ∧ isRead siteHead.method = true ∧
    ((basePortal.answer ⟨0, 0, 0⟩ siteHead).asked tabBackend : Multiset String) =
      {"http://localhost:8080/api/get-menu/", "http://localhost:8080/api/dcim/sites/5/",
        "http://localhost:8080/api/dcim/sites/5/plugin_full_width_fragment/",
        "http://localhost:8080/dcim/sites/ams/?fragment=true",
        "http://localhost:8080/dcim/sites/ams/?format=json"} +
      (["http://localhost:8080/a", "http://x/b"] : List String) := by
  have htable : basePortal.table.Reachable := .base
  have hread : isRead siteHead.method = true := by decide
  have hroute : dispatch? basePortal.table siteHead.path =
      some (.resourceDetail, [("app_name", "dcim"), ("model_name", "sites"), ("id", "5")]) := rfl
  have hslug : (View.resourceAt (basePortal.settings.api.objectUrl "dcim" "sites" "5")
      tabBackend).bind Resource.slug? = some "ams" := by decide +kernel
  have hhas : View.HasSlug basePortal.settings.api tabBackend "dcim" "sites" "5" "ams" :=
    ⟨by decide +kernel, Option.bind_eq_some_iff.mp hslug, by decide +kernel⟩
  have htabs : (View.tabsAt "http://localhost:8080/dcim/sites/ams/?format=json" tabBackend).map
      (fun tab => basePortal.settings.api.absoluteUrl tab.url) =
      ["http://localhost:8080/a", "http://x/b"] := by decide +kernel
  have hexact := answer_asks_exactly basePortal ⟨0, 0, 0⟩ siteHead tabBackend htable hread
  refine ⟨htable, hread, ?_⟩
  rcases hexact.1.detail _ hroute with ⟨name, herror⟩ | ⟨app, model, id, hdecoded, htraffic⟩
  · cases herror
  · have hnames : ["dcim", "sites", "5"] = [app, model, id] := Except.ok.inj hdecoded
    simp only [List.cons.injEq, and_true] at hnames
    obtain ⟨rfl, rfl, rfl⟩ := hnames
    have hview : basePortal.settings.api.slugViewUrl "dcim" "sites" "ams" ++ "?format=json" =
        "http://localhost:8080/dcim/sites/ams/?format=json" := by decide +kernel
    rw [htraffic.slugged (by decide +kernel) "ams" hhas, hview, htabs]
    decide +kernel

end Portal

end NetworkPortal
