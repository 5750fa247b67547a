import NetworkPortal.Portal.Basic
import NetworkPortal.Proofs.Backend.Fetch

/-! # The frame of a resource page

What plugins add to a resource page fills three gaps in a frame: more links in the list of tabs,
HTML below the main table, and more panes at the end. The frame itself, and whether there is a page
at all, depend on two answers of the backend: the menu and the resource.
-/
namespace NetworkPortal

namespace Page

/-- What a resource page shows by itself. -/
structure Frame where
  title : String
  navigation : Navigation
  heading : Html
  dates : Html
  mainTable : Html
  advancedTable : Html

structure Additions where
  links : List Html
  fragments : List Html
  panes : List Html

/-- The page with the additions in their gaps. -/
def Frame.fill (frame : Frame) (added : Additions) : View where
  status := 200
  title := frame.title
  navigation := frame.navigation
  body := Html.writeAll
    ([frame.heading, frame.dates,
      .element "ul" [("class", "nav-tabs")] (Detail.builtInTabs.map Detail.tabLink ++ added.links),
      Detail.pane "main" (frame.mainTable :: added.fragments),
      Detail.pane "advanced" [frame.advancedTable],
      Detail.pane "notes" [], Detail.pane "change_log" []] ++ added.panes)

def Frame.ofResource (navigation : Navigation) (resource : Resource) (now : Time.Instant) :
    Frame where
  title := View.detailTitle resource
  navigation := navigation
  heading := Page.heading resource.title
  dates := Detail.dates ⟨resource, [], [], now⟩
  mainTable := Detail.card "Main" (rowsTable (resource.rows .advanced))
  advancedTable := Detail.card "Advanced" (rowsTable (resource.rows .basic))

def Additions.ofDetail (page : Detail) : Additions where
  links := page.tabs.map fun loaded =>
    Detail.tabLink ⟨Detail.pluginKey loaded.tab, loaded.tab.title⟩
  fragments := page.fragments.flatMap fun fragment => [Detail.lineBreak, .trusted fragment]
  panes := page.tabs.map Detail.pluginPane

theorem view_shown (navigation : Navigation) (page : Detail) :
    (View.ResourcePage.shown navigation page).view =
      (Frame.ofResource navigation page.resource page.now).fill (.ofDetail page) := by
  have htabs : page.tabList = .element "ul" [("class", "nav-tabs")]
      (Detail.builtInTabs.map Detail.tabLink ++ (Additions.ofDetail page).links) := by
    simp only [Detail.tabList, Detail.tabLabels, Additions.ofDetail, List.map_append, List.map_map,
      Function.comp_def]
  simp only [View.ResourcePage.view, Frame.fill, Detail.body, htabs]
  rfl

end Page

namespace View

open Settings (Api isSafeSegment)

variable {api : Api} {now : Time.Instant} {app model id : String} {backend backend' : Backend}

theorem value_loadNavigation_congr (h : backend api.menuUrl = backend' api.menuUrl) :
    (loadNavigation api).value backend = (loadNavigation api).value backend' := by
  rw [loadNavigation, Fetch.value_bind, Fetch.value_bind, Fetch.value_json_congr h]
  split <;> rfl

theorem value_loadNavigation_of_ok {document : Json}
    (h : (Fetch.json api.menuUrl).value backend = .ok document) :
    (loadNavigation api).value backend = .loaded (Menu.tree (Menu.ofJson document)) := by
  rw [loadNavigation, Fetch.value_bind, h]
  rfl

def resourceAt (url : String) (backend : Backend) : Option Resource :=
  resourceOf? ((Fetch.json url).value backend)

theorem resourceAt_congr {url : String} (h : backend url = backend' url) :
    resourceAt url backend = resourceAt url backend' := by
  rw [resourceAt, resourceAt, Fetch.value_json_congr h]

theorem detail_of_not_safe (h : [app, model, id].all isSafeSegment = false) :
    (detail api now app model id).value backend =
      notFound ((loadNavigation api).value backend) := by
  simp only [detail, resourcePage, h, Bool.false_eq_true, if_false, Fetch.value_bind,
    Fetch.value_pure]
  rfl

theorem detail_of_none (hsafe : [app, model, id].all isSafeSegment = true)
    (h : resourceAt (api.objectUrl app model id) backend = none) :
    (detail api now app model id).value backend =
      unavailable ((loadNavigation api).value backend) (api.objectUrl app model id) := by
  rw [resourceAt] at h
  simp only [detail, resourcePage, hsafe, if_true, Fetch.value_bind, h, Fetch.value_pure]
  rfl

/-- Plugins fill the gaps of the frame; nothing else of the page is theirs. -/
theorem detail_of_some {resource : Resource} (now : Time.Instant)
    (hsafe : [app, model, id].all isSafeSegment = true)
    (h : resourceAt (api.objectUrl app model id) backend = some resource) :
    ∃ added, (detail api now app model id).value backend =
      (Page.Frame.ofResource ((loadNavigation api).value backend) resource now).fill added := by
  rw [resourceAt] at h
  simp only [detail, resourcePage, hsafe, if_true, Fetch.value_bind, h, Fetch.value_pure,
    Page.view_shown]
  exact ⟨_, rfl⟩

theorem missing_or_exists_resource (api : Api) (app model id : String) (backend : Backend) :
    ([app, model, id].all isSafeSegment = false ∨
      resourceAt (api.objectUrl app model id) backend = none) ∨
    [app, model, id].all isSafeSegment = true ∧
      ∃ resource, resourceAt (api.objectUrl app model id) backend = some resource := by
  cases hsafe : [app, model, id].all isSafeSegment with
  | false => exact Or.inl (Or.inl rfl)
  | true =>
    cases hfound : resourceAt (api.objectUrl app model id) backend with
    | none => exact Or.inl (Or.inr rfl)
    | some resource => exact Or.inr ⟨rfl, resource, rfl⟩

variable (hmenu : backend api.menuUrl = backend' api.menuUrl)
  (hobject : backend (api.objectUrl app model id) = backend' (api.objectUrl app model id))

include hmenu hobject

theorem detail_congr_of_missing (now : Time.Instant)
    (hmissing : [app, model, id].all isSafeSegment = false ∨
      resourceAt (api.objectUrl app model id) backend = none) :
    (detail api now app model id).value backend = (detail api now app model id).value backend' := by
  have hnavigation := value_loadNavigation_congr hmenu
  cases hsafe : [app, model, id].all isSafeSegment with
  | false => rw [detail_of_not_safe hsafe, detail_of_not_safe hsafe, hnavigation]
  | true =>
    have hnone := hmissing.resolve_left (by simp [hsafe])
    have hnone' := (resourceAt_congr hobject).symm.trans hnone
    rw [detail_of_none hsafe hnone, detail_of_none hsafe hnone', hnavigation]

theorem exists_additions {resource : Resource} (now : Time.Instant)
    (hsafe : [app, model, id].all isSafeSegment = true)
    (h : resourceAt (api.objectUrl app model id) backend = some resource) :
    ∃ added added',
      (detail api now app model id).value backend =
        (Page.Frame.ofResource ((loadNavigation api).value backend) resource now).fill added ∧
      (detail api now app model id).value backend' =
        (Page.Frame.ofResource ((loadNavigation api).value backend) resource now).fill added' := by
  obtain ⟨added, hadded⟩ := detail_of_some now hsafe h
  obtain ⟨added', hadded'⟩ :=
    detail_of_some now hsafe ((resourceAt_congr hobject).symm.trans h)
  rw [← value_loadNavigation_congr hmenu] at hadded'
  exact ⟨added, added', hadded, hadded'⟩

end View

end NetworkPortal
