import NetworkPortal.Proofs.Backend.Local
import NetworkPortal.Proofs.Settings.Slashes
import NetworkPortal.Proofs.View.Traffic

/-! # What the menu decides

The answer for the menu makes the navigation bar of a view and nothing else. The primary addresses of
lists and resources and what is asked for on the side are never the address of the menu; only a tab
may have it, since its address is up to the backend.
-/
namespace NetworkPortal

namespace View

open Settings (Api AllSafe isSafeSegment)

variable {api : Api} {backend backend' : Backend} {app model id : String}

def under (view : View) (navigation : Page.Navigation) : View := { view with navigation }

theorem text_under (view : View) (navigation : Page.Navigation) :
    (view.under navigation).text =
      Page.opening view.title ++ navigation.html.write ++ Page.closing view.body := rfl

/-- The bar above a view is that of the menu, and the menu decides no more of the view. -/
def FramesMenu (api : Api) (backend backend' : Backend) (fetch : Fetch View) : Prop :=
  ∃ view : View, ∀ b ∈ [backend, backend'],
    fetch.value b = view.under ((loadNavigation api).value b)

theorem framesMenu_home (api : Api) : FramesMenu api backend backend' (home api) :=
  ⟨⟨200, "Home", .failed, Html.writeAll Page.homeBody⟩, fun _ _ => rfl⟩

theorem framesMenu_installedPlugins (api : Api) (mounts : List Route.Mount) :
    FramesMenu api backend backend' (installedPlugins api mounts) :=
  ⟨⟨200, "Installed Plugins", .failed, Html.writeAll (Page.pluginsBody mounts)⟩, fun _ _ => rfl⟩

theorem framesMenu_pluginPage (api : Api) (mount : Route.Mount)
    (page : Except PluginFault Markup) :
    FramesMenu api backend backend' (pluginPage api mount page) := by
  cases page with
  | ok markup => exact ⟨⟨200, mount.title, .failed, markup.html⟩, fun _ _ => rfl⟩
  | error fault =>
    exact ⟨⟨500, mount.title, .failed, notice ("Failed to load plugin " ++ mount.identifier)⟩,
      fun _ _ => rfl⟩

/-! ## Lists -/

def listRest (api : Api) (app model : String) (listing : Except Error Json) : View :=
  match listing with
  | .ok listing =>
    ⟨200, listTitle model, .failed,
      Html.writeAll (Page.listBody (listTitle model) (Page.ListItem.ofListing listing app model))⟩
  | .error _ => unavailable .failed (api.listUrl app model)

theorem value_list_of_not_safe (h : ¬ AllSafe [app, model]) :
    (list api app model).value backend =
      (notFound .failed).under ((loadNavigation api).value backend) := by
  have hunsafe : ¬ [app, model].all isSafeSegment = true := List.all_eq_true.not.mpr h
  rw [list, if_neg hunsafe]
  rfl

theorem value_list_of_safe (h : AllSafe [app, model]) :
    (list api app model).value backend =
      (listRest api app model ((Fetch.json (api.listUrl app model)).value backend)).under
        ((loadNavigation api).value backend) := by
  have hsafe : [app, model].all isSafeSegment = true := List.all_eq_true.mpr h
  rw [list, if_pos hsafe]
  simp only [Fetch.value_bind]
  cases (Fetch.json (api.listUrl app model)).value backend <;> rfl

/-- The two backends differ in their answer for the menu at most. -/
def SameBesideMenu (api : Api) (backend backend' : Backend) : Prop :=
  ∀ url, url ≠ api.menuUrl → backend url = backend' url

theorem framesMenu_list (hsame : SameBesideMenu api backend backend') (app model : String) :
    FramesMenu api backend backend' (list api app model) := by
  by_cases hsafe : AllSafe [app, model]
  · have hlisting := Fetch.value_json_congr (hsame _ (Settings.listUrl_ne_menuUrl app model))
    refine ⟨listRest api app model ((Fetch.json (api.listUrl app model)).value backend), ?_⟩
    intro b hb
    rw [value_list_of_safe hsafe]
    rcases List.mem_pair.mp hb with rfl | rfl
    · rfl
    · rw [hlisting]
  · exact ⟨notFound .failed, fun b _ => value_list_of_not_safe hsafe⟩

/-! ## Resources -/

theorem isLocal_loadTab (tab : Plugin.Tab) : (loadTab tab).IsLocal :=
  (Fetch.isLocal_markup _).bind fun _ => Fetch.isLocal_pure _

theorem isLocal_tabs (app model slug : String) : (Fetch.tabs api app model slug).IsLocal := by
  refine (Fetch.isLocal_json _).bind fun document => ?_
  cases document with
  | ok document => exact Fetch.isLocal_pure _
  | error fault => exact Fetch.isLocal_pure _

theorem isLocal_slugExtras (slug : Option String) :
    (slugExtras api app model slug).IsLocal := by
  cases slug with
  | none => exact Fetch.isLocal_pure _
  | some slug =>
    exact (Fetch.isLocal_markup _).bind fun _ => (isLocal_tabs app model slug).bind fun tabs =>
      (Fetch.isLocal_each isLocal_loadTab tabs).bind fun _ => Fetch.isLocal_pure _

/-- `url` is the address of a tab that a resource page asks for. -/
def IsTabUrl (api : Api) (backend : Backend) (app model id url : String) : Prop :=
  ∃ slug, HasSlug api backend app model id slug ∧
    url ∈ (tabsAt (api.slugViewUrl app model slug ++ "?format=json") backend).map
      fun tab => api.absoluteUrl tab.url

theorem menuUrl_not_mem_slugTraffic {slug : String}
    (hslug : HasSlug api backend app model id slug)
    (htab : ¬ IsTabUrl api backend app model id api.menuUrl) :
    api.menuUrl ∉ slugTraffic api backend app model slug := by
  intro hmem
  rcases List.mem_append.mp hmem with hview | htabs
  · rcases List.mem_pair.mp hview with heq | heq
    all_goals exact Settings.slugViewUrl_append_ne_menuUrl app model slug _ heq.symm
  · exact htab ⟨slug, hslug, htabs⟩

theorem fragment_congr (hsame : SameBesideMenu api backend backend') (app model id : String) :
    (Fetch.fragment (api.objectUrl app model id)).value backend =
      (Fetch.fragment (api.objectUrl app model id)).value backend' := by
  refine (Fetch.isLocal_markup _ backend backend' ?_).1
  intro url hurl
  rw [Fetch.asked_markup, List.mem_singleton, fragmentUrl_objectUrl] at hurl
  exact hsame url (hurl ▸ Settings.objectUrl_append_ne_menuUrl app model id _)

theorem slugExtras_congr (hsame : SameBesideMenu api backend backend')
    (htab : ¬ IsTabUrl api backend app model id api.menuUrl) {resource : Resource}
    (hresource : resourceAt (api.objectUrl app model id) backend = some resource) :
    (slugExtras api app model (slugOf? api app model resource)).value backend =
      (slugExtras api app model (slugOf? api app model resource)).value backend' := by
  refine (isLocal_slugExtras _ backend backend' ?_).1
  intro url hurl
  refine hsame url ?_
  rintro rfl
  rw [asked_slugExtras, List.mem_flatMap] at hurl
  obtain ⟨slug, hslug, hmem⟩ := hurl
  have hhas : HasSlug api backend app model id slug := by
    rw [← slugAt_eq_some_iff, slugAt, hresource]
    exact Option.mem_toList.mp hslug
  exact menuUrl_not_mem_slugTraffic hhas htab hmem

def detailPage (now : Time.Instant) (resource : Resource) (fragment : Option Markup)
    (extras : Extras) : Page.Detail :=
  ⟨resource, (fragment.toList ++ extras.fragments).filter (!·.isBlank), extras.tabs, now⟩

theorem value_detail_of_some (now : Time.Instant) {resource : Resource}
    (hsafe : [app, model, id].all isSafeSegment = true)
    (h : resourceAt (api.objectUrl app model id) backend = some resource) :
    (detail api now app model id).value backend =
      (ResourcePage.shown ((loadNavigation api).value backend)
        (detailPage now resource ((Fetch.fragment (api.objectUrl app model id)).value backend)
          ((slugExtras api app model (slugOf? api app model resource)).value backend))).view := by
  rw [resourceAt] at h
  simp only [detail, resourcePage, hsafe, if_true, Fetch.value_bind, h, Fetch.value_pure]
  rfl

theorem framesMenu_detail (hsame : SameBesideMenu api backend backend') (now : Time.Instant)
    (htab : AllSafe [app, model, id] → ¬ IsTabUrl api backend app model id api.menuUrl) :
    FramesMenu api backend backend' (detail api now app model id) := by
  by_cases hsafe : AllSafe [app, model, id]
  · have hall : [app, model, id].all isSafeSegment = true := List.all_eq_true.mpr hsafe
    have hobject := resourceAt_congr (hsame _ (Settings.objectUrl_ne_menuUrl app model id))
    cases hfound : resourceAt (api.objectUrl app model id) backend with
    | none =>
      refine ⟨unavailable .failed (api.objectUrl app model id), ?_⟩
      intro b hb
      rcases List.mem_pair.mp hb with rfl | rfl
      · exact detail_of_none hall hfound
      · exact detail_of_none hall (hobject.symm.trans hfound)
    | some resource =>
      have hfragment := fragment_congr hsame app model id
      have hextras := slugExtras_congr hsame (htab hsafe) hfound
      refine ⟨(ResourcePage.shown .failed (detailPage now resource
        ((Fetch.fragment (api.objectUrl app model id)).value backend)
        ((slugExtras api app model (slugOf? api app model resource)).value backend))).view, ?_⟩
      intro b hb
      rcases List.mem_pair.mp hb with rfl | rfl
      · exact value_detail_of_some now hall hfound
      · rw [value_detail_of_some now hall (hobject.symm.trans hfound), hfragment, hextras]
        rfl
  · have hunsafe : [app, model, id].all isSafeSegment = false :=
      Bool.eq_false_iff.mpr (List.all_eq_true.not.mpr hsafe)
    exact ⟨notFound .failed, fun b _ => detail_of_not_safe hunsafe⟩

/-! ## The bar -/

theorem loadNavigation_cases (api : Api) (backend : Backend) :
    (∃ document, (Fetch.json api.menuUrl).value backend = .ok document ∧
      (loadNavigation api).value backend = .loaded (Menu.tree (Menu.ofJson document))) ∨
    (∃ error, (Fetch.json api.menuUrl).value backend = .error error) ∧
      (loadNavigation api).value backend = .failed := by
  rw [loadNavigation, Fetch.value_bind]
  cases (Fetch.json api.menuUrl).value backend with
  | ok document => exact Or.inl ⟨document, rfl, rfl⟩
  | error error => exact Or.inr ⟨⟨error, rfl⟩, rfl⟩

end View

end NetworkPortal
