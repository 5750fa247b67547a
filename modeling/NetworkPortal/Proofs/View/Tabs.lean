import NetworkPortal.Proofs.Page.Tabs
import NetworkPortal.Proofs.View.Traffic

/-! # Tabs of the pages that are shown

Whatever the backend answers, a resource page that is shown has the tabs of some document, and
which of their contents could be fetched does not matter for their keys.
-/
namespace NetworkPortal

theorem Fetch.value_each {α β : Type} {backend : Backend} (fetch : α → Fetch β) (as : List α) :
    (each fetch as).value backend = as.map fun a => (fetch a).value backend := by
  induction as with
  | nil => rfl
  | cons a rest ih => simp only [each, value_bind, value_pure, ih, List.map_cons]

namespace View

open Plugin (Tab)
open Settings (Api)

variable {api : Api} {backend : Backend} {app model id : String}

theorem keys_slugExtras (api : Api) (backend : Backend) (app model : String)
    (slug : Option String) :
    ∃ document, ((slugExtras api app model slug).value backend).tabs.map (·.tab.key) =
      (Tab.ofDocument document).map Tab.key := by
  cases slug with
  | none => exact ⟨.null, rfl⟩
  | some slug =>
    have hkeys (tabs : List Tab) :
        (((Fetch.each loadTab (tabs.map (Fetch.completeTab api))).value backend).map
          (·.tab.key)) = tabs.map Tab.key := by
      rw [Fetch.value_each, List.map_map, List.map_map]
      exact List.map_congr_left fun tab _ => rfl
    have htabs : ∃ document, tabsAt (api.slugViewUrl app model slug ++ "?format=json") backend =
        Tab.ofDocument document := by
      unfold tabsAt
      split
      · exact ⟨_, rfl⟩
      · exact ⟨.null, rfl⟩
    obtain ⟨document, hdocument⟩ := htabs
    refine ⟨document, ?_⟩
    simp only [slugExtras, Fetch.value_bind, Fetch.value_pure, value_tabs, hdocument]
    exact hkeys _

theorem exists_slug_of_shown {now : Time.Instant} {navigation : Page.Navigation}
    {page : Page.Detail}
    (h : (resourcePage api now app model id).value backend = .shown navigation page) :
    ∃ slug, page.tabs = ((slugExtras api app model slug).value backend).tabs := by
  cases hsafe : [app, model, id].all Settings.isSafeSegment with
  | false =>
    simp only [resourcePage, hsafe, Bool.false_eq_true, if_false, Fetch.value_bind,
      Fetch.value_pure] at h
    cases h
  | true =>
    simp only [resourcePage, hsafe, if_true, Fetch.value_bind] at h
    cases hfound : resourceOf? ((Fetch.json (api.objectUrl app model id)).value backend) with
    | none =>
      rw [hfound] at h
      cases h
    | some resource =>
      simp only [hfound, Fetch.value_bind, Fetch.value_pure] at h
      obtain ⟨_, rfl⟩ := ResourcePage.shown.inj h
      exact ⟨_, rfl⟩

/-- The panes of a page that is shown have keys of their own. -/
theorem nodup_keys_of_shown {now : Time.Instant} {navigation : Page.Navigation}
    {page : Page.Detail}
    (h : (resourcePage api now app model id).value backend = .shown navigation page) :
    (page.tabLabels.map Page.TabLabel.key).Nodup := by
  obtain ⟨slug, htabs⟩ := exists_slug_of_shown h
  obtain ⟨document, hdocument⟩ := keys_slugExtras api backend app model slug
  rw [← htabs] at hdocument
  rw [Page.Detail.tabLabels_keys hdocument]
  exact Page.Detail.nodup_paneKeys document

end View

end NetworkPortal
