import NetworkPortal.Page.Detail
import NetworkPortal.View.Basic

/-! # The view of a resource

What plugins add to the page is fetched on the side and never decides whether the page is shown.
-/
namespace NetworkPortal.View

open Settings (Api isSafeSegment)

def loadTab (tab : Plugin.Tab) : Fetch Page.LoadedTab := do
  return ⟨tab, ← Fetch.markup tab.url⟩

structure Extras where
  fragments : List Markup
  tabs : List Page.LoadedTab

/-- The slug by which the backend addresses a resource, if it does so and the slug is safe. -/
def slugOf? (api : Api) (app model : String) (resource : Resource) : Option String :=
  if api.usesSlugView app model then resource.slug?.filter isSafeSegment else none

def slugExtras (api : Api) (app model : String) : Option String → Fetch Extras
  | none => return ⟨[], []⟩
  | some slug => do
    let fragment ← Fetch.slugFragment api app model slug
    let tabs ← Fetch.tabs api app model slug
    let loaded ← Fetch.each loadTab tabs
    return ⟨fragment.toList, loaded⟩

/-- The title of the page of a resource: its display text, else its heading. -/
def detailTitle (resource : Resource) : String := resource.display?.getD resource.title

def resourceOf? (fetched : Except Error Json) : Option Resource :=
  fetched.toOption.bind Resource.ofJson?

/-- The page of a resource before it is written, or what stands in its place. -/
inductive ResourcePage where
  | notFound (navigation : Page.Navigation)
  | unavailable (navigation : Page.Navigation) (url : String)
  | shown (navigation : Page.Navigation) (page : Page.Detail)

def ResourcePage.view : ResourcePage → View
  | .notFound navigation => View.notFound navigation
  | .unavailable navigation url => View.unavailable navigation url
  | .shown navigation page =>
    ⟨200, detailTitle page.resource, navigation, Html.writeAll page.body⟩

def resourcePage (api : Api) (now : Time.Instant) (app model id : String) :
    Fetch ResourcePage := do
  if [app, model, id].all isSafeSegment then
    let url := api.objectUrl app model id
    let navigation ← loadNavigation api
    let object ← Fetch.json url
    let fragment ← Fetch.fragment url
    match resourceOf? object with
    | none => return .unavailable navigation url
    | some resource =>
      let extras ← slugExtras api app model (slugOf? api app model resource)
      let fragments := (fragment.toList ++ extras.fragments).filter (!·.isBlank)
      return .shown navigation ⟨resource, fragments, extras.tabs, now⟩
  else return .notFound (← loadNavigation api)

def detail (api : Api) (now : Time.Instant) (app model id : String) : Fetch View := do
  return (← resourcePage api now app model id).view

end NetworkPortal.View
