import NetworkPortal.Proofs.View.Menu

/-! # How views of resources turn out

A view of resources is not found if a name is not safe, unavailable if its primary address does not
hold what it shows, and shown otherwise. Only the menu and the names have a part in a view that is not
shown.
-/
namespace NetworkPortal.View

open Settings (Api AllSafe isSafeSegment)

variable {api : Api} {backend : Backend} {app model id url : String}

def documentAt (url : String) (backend : Backend) : Option Json :=
  match backend url with
  | .body text => Json.read? text
  | .refused _ => none

def objectAt (url : String) (backend : Backend) : Option (List (String × Json)) :=
  (documentAt url backend).bind Json.object?

theorem toOption_json (url : String) (backend : Backend) :
    ((Fetch.json url).value backend).toOption = documentAt url backend := by
  have hvalue : (Fetch.json url).value backend =
      ((Fetch.text url).value backend).bind Fetch.readJson := rfl
  rw [hvalue, documentAt, Fetch.value, Fetch.text]
  cases backend url with
  | refused status => rfl
  | body text =>
    simp only [Except.bind, Fetch.readJson]
    cases Json.read? text <;> rfl

theorem json_eq_ok_iff {document : Json} :
    (Fetch.json url).value backend = .ok document ↔ documentAt url backend = some document := by
  rw [← toOption_json]
  cases (Fetch.json url).value backend <;> simp [Except.toOption]

theorem resourceAt_eq (url : String) (backend : Backend) :
    resourceAt url backend = (objectAt url backend).map Resource.ofMembers := by
  rw [resourceAt, resourceOf?, toOption_json, objectAt]
  cases documentAt url backend <;> rfl

/-- How a view of what `names` name turns out, under a bar and with a primary address. `shows` tells
whether the backend holds there what the view shows. -/
inductive TurnsOut (navigation : Page.Navigation) (names : List String) (url : String)
    (shows : Prop) : View → Prop
  | refused (hrefused : ¬ AllSafe names) : TurnsOut navigation names url shows (notFound navigation)
  | missing (hsafe : AllSafe names) (hnot : ¬ shows) :
      TurnsOut navigation names url shows (unavailable navigation url)
  | shown {view : View} (hsafe : AllSafe names) (hshows : shows) (hstatus : view.status = 200) :
      TurnsOut navigation names url shows view

theorem turnsOut_list (api : Api) (backend : Backend) (app model : String) :
    TurnsOut ((loadNavigation api).value backend) [app, model] (api.listUrl app model)
      (documentAt (api.listUrl app model) backend).isSome
      ((list api app model).value backend) := by
  by_cases hsafe : AllSafe [app, model]
  · rw [value_list_of_safe hsafe]
    cases hlisting : (Fetch.json (api.listUrl app model)).value backend with
    | ok listing =>
      have hdocument := json_eq_ok_iff.mp hlisting
      exact .shown hsafe (by rw [hdocument]; rfl) rfl
    | error fault =>
      refine .missing hsafe fun hsome => ?_
      obtain ⟨listing, hdocument⟩ := Option.isSome_iff_exists.mp hsome
      cases hlisting.symm.trans (json_eq_ok_iff.mpr hdocument)
  · rw [value_list_of_not_safe hsafe]
    exact .refused hsafe

theorem turnsOut_detail (api : Api) (backend : Backend) (now : Time.Instant)
    (app model id : String) :
    TurnsOut ((loadNavigation api).value backend) [app, model, id] (api.objectUrl app model id)
      (objectAt (api.objectUrl app model id) backend).isSome
      ((detail api now app model id).value backend) := by
  have hresource := resourceAt_eq (api.objectUrl app model id) backend
  by_cases hsafe : AllSafe [app, model, id]
  · have hall : [app, model, id].all isSafeSegment = true := List.all_eq_true.mpr hsafe
    cases hobject : objectAt (api.objectUrl app model id) backend with
    | none =>
      rw [hobject, Option.map_none] at hresource
      rw [detail_of_none hall hresource]
      exact .missing hsafe (by simp)
    | some members =>
      rw [hobject, Option.map_some] at hresource
      obtain ⟨added, hview⟩ := detail_of_some now hall hresource
      rw [hview]
      exact .shown hsafe rfl rfl
  · rw [detail_of_not_safe (Bool.eq_false_iff.mpr (List.all_eq_true.not.mpr hsafe))]
    exact .refused hsafe

namespace TurnsOut

variable {navigation : Page.Navigation} {names : List String} {shows shows' : Prop}
  {view view' : View}

theorem status_eq_404_iff (h : TurnsOut navigation names url shows view) :
    view.status = 404 ↔ ¬ AllSafe names := by
  cases h with
  | refused hrefused => simp [notFound, hrefused]
  | missing hsafe _ => simp [unavailable, hsafe]
  | shown hsafe _ hstatus => simp [hstatus, hsafe]

theorem status_eq_502_iff (h : TurnsOut navigation names url shows view) :
    view.status = 502 ↔ AllSafe names ∧ ¬ shows := by
  cases h with
  | refused hrefused => simp [notFound, hrefused]
  | missing hsafe hnot => simp [unavailable, hsafe, hnot]
  | shown _ hshows hstatus => simp [hstatus, hshows]

theorem status_eq_200_iff (h : TurnsOut navigation names url shows view) :
    view.status = 200 ↔ AllSafe names ∧ shows := by
  cases h with
  | refused hrefused => simp [notFound, hrefused]
  | missing _ hnot => simp [unavailable, hnot]
  | shown hsafe hshows hstatus => simp [hstatus, hsafe, hshows]

theorem eq_notFound (h : TurnsOut navigation names url shows view) (hstatus : view.status = 404) :
    view = notFound navigation := by
  cases h with
  | refused _ => rfl
  | missing hsafe _ => cases hstatus
  | shown _ _ hok => cases hok.symm.trans hstatus

theorem eq_unavailable (h : TurnsOut navigation names url shows view)
    (hstatus : view.status = 502) : view = unavailable navigation url := by
  cases h with
  | refused _ => cases hstatus
  | missing _ _ => rfl
  | shown _ _ hok => cases hok.symm.trans hstatus

theorem eq_of_status_eq (h : TurnsOut navigation names url shows view)
    (h' : TurnsOut navigation names url shows' view') (hnot : view.status ≠ 200)
    (hstatus : view.status = view'.status) : view = view' := by
  cases h with
  | refused _ => exact (h'.eq_notFound hstatus.symm).symm
  | missing _ _ => exact (h'.eq_unavailable hstatus.symm).symm
  | shown _ _ hok => exact absurd hok hnot

end TurnsOut

end NetworkPortal.View
