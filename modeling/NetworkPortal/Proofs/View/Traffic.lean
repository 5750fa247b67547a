import Mathlib.Data.Multiset.AddSub
import NetworkPortal.Proofs.Settings.Host
import NetworkPortal.Proofs.View.Frame

/-! # What views ask the backend for

Every view asks for the menu. A list asks for its primary address too, and a resource for its own
address and its fragment; what a resource asks for on the side depends on a slug that the backend
gives, and on the tab document that stands under it.
-/
namespace NetworkPortal.View

open Settings (Api AllSafe isSafeSegment)

variable {api : Api} {backend : Backend} {app model id : String}

theorem asked_loadNavigation : (loadNavigation api).asked backend = [api.menuUrl] := by
  rw [loadNavigation, Fetch.asked_bind, Fetch.asked_json]
  split <;> rfl

theorem asked_home : (home api).asked backend = [api.menuUrl] := by
  rw [home, Fetch.asked_bind, asked_loadNavigation]
  rfl

theorem asked_installedPlugins (mounts : List Route.Mount) :
    (installedPlugins api mounts).asked backend = [api.menuUrl] := by
  rw [installedPlugins, Fetch.asked_bind, asked_loadNavigation]
  rfl

theorem asked_pluginPage (mount : Route.Mount) (page : Except PluginFault Markup) :
    (pluginPage api mount page).asked backend = [api.menuUrl] := by
  rw [pluginPage, Fetch.asked_bind, asked_loadNavigation]
  cases page <;> rfl

/-! ## Lists -/

/-- The addresses that a list asks for, counted with repetitions. -/
structure ListTraffic (api : Api) (app model : String) (asked : Multiset String) : Prop where
  refused : ¬ AllSafe [app, model] → asked = {api.menuUrl}
  loaded : AllSafe [app, model] → asked = {api.menuUrl, api.listUrl app model}

theorem asked_list_of_not_safe (h : ¬ AllSafe [app, model]) :
    (list api app model).asked backend = [api.menuUrl] := by
  have hunsafe : ¬ [app, model].all isSafeSegment = true := List.all_eq_true.not.mpr h
  rw [list, if_neg hunsafe, Fetch.asked_bind, asked_loadNavigation]
  rfl

theorem asked_list_of_safe (h : AllSafe [app, model]) :
    (list api app model).asked backend = [api.menuUrl, api.listUrl app model] := by
  have hsafe : [app, model].all isSafeSegment = true := List.all_eq_true.mpr h
  rw [list, if_pos hsafe]
  simp only [Fetch.asked_bind, asked_loadNavigation, Fetch.asked_json]
  split <;> rfl

theorem listTraffic_list (api : Api) (backend : Backend) (app model : String) :
    ListTraffic api app model ((list api app model).asked backend) where
  refused h := by rw [asked_list_of_not_safe h, Multiset.coe_singleton]
  loaded h := by rw [asked_list_of_safe h]; rfl

/-! ## Resources -/

def tabsAt (url : String) (backend : Backend) : List Plugin.Tab :=
  match (Fetch.json url).value backend with
  | .ok document => Plugin.Tab.ofDocument document
  | .error _ => []

def slugTraffic (api : Api) (backend : Backend) (app model slug : String) : List String :=
  let url := api.slugViewUrl app model slug
  [url ++ "?fragment=true", url ++ "?format=json"] ++
    (tabsAt (url ++ "?format=json") backend).map fun tab => api.absoluteUrl tab.url

theorem value_tabs (app model slug : String) :
    (Fetch.tabs api app model slug).value backend =
      (tabsAt (api.slugViewUrl app model slug ++ "?format=json") backend).map
        (Fetch.completeTab api) := by
  rw [Fetch.tabs, Fetch.value_bind, tabsAt]
  cases (Fetch.json (api.slugViewUrl app model slug ++ "?format=json")).value backend <;> rfl

theorem asked_tabs (app model slug : String) :
    (Fetch.tabs api app model slug).asked backend =
      [api.slugViewUrl app model slug ++ "?format=json"] := by
  rw [Fetch.tabs, Fetch.asked_bind, Fetch.asked_json]
  split <;> rfl

theorem asked_slugExtras (slug : Option String) :
    (slugExtras api app model slug).asked backend =
      slug.toList.flatMap (slugTraffic api backend app model) := by
  cases slug with
  | none => rfl
  | some slug =>
    have hfragment : (Fetch.slugFragment api app model slug).asked backend =
        [api.slugViewUrl app model slug ++ "?fragment=true"] := rfl
    have htab (tab : Plugin.Tab) : (loadTab tab).asked backend = [tab.url] := rfl
    have hcontents (tabs : List Plugin.Tab) :
        (Fetch.each loadTab (tabs.map (Fetch.completeTab api))).asked backend =
          tabs.map fun tab => api.absoluteUrl tab.url := by
      simp only [Fetch.asked_each, htab, List.flatMap_map, Fetch.completeTab]
      exact List.flatMap_pure_eq_map _ _
    simp only [slugExtras, Fetch.asked_bind, Fetch.asked_pure, hfragment, asked_tabs, value_tabs,
      hcontents, slugTraffic, Option.toList_some, List.flatMap_singleton, List.append_nil]
    rfl

theorem fragmentUrl_objectUrl :
    Settings.fragmentUrl (api.objectUrl app model id) =
      api.objectUrl app model id ++ "plugin_full_width_fragment/" := by
  have hslash : Text.endsWithChar '/' (api.objectUrl app model id) = true := by
    rw [Text.endsWithChar, Api.objectUrl, String.toList_append, show "/".toList = ['/'] from rfl,
      List.getLast?_concat, beq_self_eq_true]
  rw [Settings.fragmentUrl, if_pos hslash]

theorem asked_detail_of_not_safe (now : Time.Instant) (h : ¬ AllSafe [app, model, id]) :
    (detail api now app model id).asked backend = [api.menuUrl] := by
  have hunsafe : ¬ [app, model, id].all isSafeSegment = true := List.all_eq_true.not.mpr h
  simp only [detail, resourcePage, if_neg hunsafe, Fetch.asked_bind, asked_loadNavigation]
  rfl

/-- A safe slug under which a backend has more about a resource of its. -/
structure HasSlug (api : Api) (backend : Backend) (app model id slug : String) : Prop where
  uses : api.usesSlugView app model = true
  given : ∃ resource, resourceAt (api.objectUrl app model id) backend = some resource ∧
    resource.slug? = some slug
  safe : isSafeSegment slug = true

def slugAt (api : Api) (backend : Backend) (app model id : String) : Option String :=
  (resourceAt (api.objectUrl app model id) backend).bind (slugOf? api app model)

theorem slugAt_eq_some_iff {slug : String} :
    slugAt api backend app model id = some slug ↔ HasSlug api backend app model id slug := by
  rw [slugAt, Option.bind_eq_some_iff]
  constructor
  · rintro ⟨resource, hresource, hslug⟩
    unfold slugOf? at hslug
    split at hslug
    · next huses =>
      obtain ⟨hgiven, hsafe⟩ := Option.filter_eq_some_iff.mp hslug
      exact ⟨huses, ⟨resource, hresource, hgiven⟩, hsafe⟩
    · cases hslug
  · rintro ⟨huses, ⟨resource, hresource, hgiven⟩, hsafe⟩
    refine ⟨resource, hresource, ?_⟩
    rw [slugOf?, if_pos huses]
    exact Option.filter_eq_some_iff.mpr ⟨hgiven, hsafe⟩

theorem asked_detail_of_safe (now : Time.Instant) (h : AllSafe [app, model, id]) :
    (detail api now app model id).asked backend =
      [api.menuUrl, api.objectUrl app model id,
        api.objectUrl app model id ++ "plugin_full_width_fragment/"] ++
      (slugAt api backend app model id).toList.flatMap (slugTraffic api backend app model) := by
  have hsafe : [app, model, id].all isSafeSegment = true := List.all_eq_true.mpr h
  have hfragment : (Fetch.fragment (api.objectUrl app model id)).asked backend =
      [api.objectUrl app model id ++ "plugin_full_width_fragment/"] := by
    rw [Fetch.fragment, Fetch.asked_markup, fragmentUrl_objectUrl]
  simp only [detail, resourcePage, if_pos hsafe, Fetch.asked_bind, asked_loadNavigation,
    Fetch.asked_json, hfragment, Fetch.asked_pure, List.append_nil]
  rw [slugAt, resourceAt]
  cases hresource : resourceOf? ((Fetch.json (api.objectUrl app model id)).value backend) with
  | none => rfl
  | some resource =>
    simp only [Fetch.asked_bind, Fetch.asked_pure, asked_slugExtras, List.append_nil,
      Option.bind_some]
    rfl

structure DetailTraffic (api : Api) (backend : Backend) (app model id : String)
    (asked : Multiset String) : Prop where
  refused : ¬ AllSafe [app, model, id] → asked = {api.menuUrl}
  unslugged : AllSafe [app, model, id] → (∀ slug, ¬ HasSlug api backend app model id slug) →
    asked = {api.menuUrl, api.objectUrl app model id,
      api.objectUrl app model id ++ "plugin_full_width_fragment/"}
  slugged : AllSafe [app, model, id] → ∀ slug, HasSlug api backend app model id slug →
    asked = {api.menuUrl, api.objectUrl app model id,
      api.objectUrl app model id ++ "plugin_full_width_fragment/",
      api.slugViewUrl app model slug ++ "?fragment=true",
      api.slugViewUrl app model slug ++ "?format=json"} +
        ((tabsAt (api.slugViewUrl app model slug ++ "?format=json") backend).map
          fun tab => api.absoluteUrl tab.url : List String)

theorem detailTraffic_detail (api : Api) (backend : Backend) (now : Time.Instant)
    (app model id : String) :
    DetailTraffic api backend app model id ((detail api now app model id).asked backend) where
  refused h := by rw [asked_detail_of_not_safe now h, Multiset.coe_singleton]
  unslugged h hnone := by
    have hslug : slugAt api backend app model id = none := by
      rw [Option.eq_none_iff_forall_ne_some]
      intro slug hsome
      exact hnone slug (slugAt_eq_some_iff.mp hsome)
    rw [asked_detail_of_safe now h, hslug]
    rfl
  slugged h slug hslug := by
    rw [asked_detail_of_safe now h, slugAt_eq_some_iff.mpr hslug]
    simp only [Option.toList_some, List.flatMap_singleton, slugTraffic]
    rfl

end NetworkPortal.View
