import Mathlib.Data.List.Permutation
import NetworkPortal.Proofs.Page.Navigation
import NetworkPortal.Proofs.Portal.Detail
import NetworkPortal.Proofs.Portal.Paths
import NetworkPortal.Proofs.Route.Link

/-! # Links of the menu

The backend publishes its lists under addresses that end in a slash. The navigation bar links to
them as they are, and the router knows lists only by addresses without it.
-/
namespace NetworkPortal.Portal

open Http (Request)
open Route (Table NoDelimiter pathOf segments? decodeParameters)

def isNameChar (c : Char) : Bool := c.isAlphanum || c == '-' || c == '_'

/-- A text of ASCII letters, digits, hyphens and underscores. -/
def IsPlainName (text : String) : Prop := text ≠ "" ∧ text.toList.all isNameChar = true

instance (text : String) : Decidable (IsPlainName text) := inferInstanceAs (Decidable (_ ∧ _))

variable {table : Table} {request : Request} {app model text : String}

theorem IsPlainName.not_mem (h : IsPlainName text) {c : Char} (hc : isNameChar c = false) :
    c ∉ text.toList := by
  intro hmem
  have hname := List.all_eq_true.mp h.2 c hmem
  rw [hc] at hname
  cases hname

theorem IsPlainName.noDelimiter (h : IsPlainName text) : NoDelimiter text :=
  ⟨h.not_mem rfl, h.not_mem rfl, h.not_mem rfl⟩

theorem IsPlainName.decode? (h : IsPlainName text) : Text.Percent.decode? text = some text :=
  Text.Percent.decode?_of_not_hasCode (Text.Percent.hasCode_of_not_mem (h.not_mem rfl))

def publishedAddress (app model : String) : String := "/" ++ app ++ "/" ++ model ++ "/"

theorem publishedAddress_eq (app model : String) :
    publishedAddress app model = pathOf [app, model, ""] := by
  apply String.toList_inj.mp
  simp [publishedAddress, pathOf]

theorem escape_publishedAddress (happ : IsPlainName app) (hmodel : IsPlainName model) :
    Html.escape (publishedAddress app model) = publishedAddress app model := by
  have hspecial {text : String} (h : IsPlainName text) :
      ∀ c ∈ text.toList, c ∉ Html.specials := by
    intro c hc hmem
    rcases Html.mem_specials_iff.mp hmem with rfl | rfl | rfl | rfl | rfl
    all_goals exact h.not_mem rfl hc
  apply Html.escape_eq_self
  have hslash : ∀ c ∈ "/".toList, c ∉ Html.specials := by
    intro c hc
    obtain rfl : c = '/' := by simpa using hc
    decide
  simp only [publishedAddress, String.toList_append, List.forall_mem_append]
  exact ⟨⟨⟨⟨hslash, hspecial happ⟩, hslash⟩, hspecial hmodel⟩, hslash⟩

/-- An address that ends in a slash after two names is that of no view: it has three segments, and
the last of them is empty. -/
theorem dispatch?_publishedAddress (htable : table.Reachable) (happ : IsPlainName app)
    (hmodel : IsPlainName model) (htarget : request.target = publishedAddress app model) :
    dispatch? table request.path = none := by
  obtain ⟨mounts, hmounts, rfl⟩ := htable.exists_mounts
  have hdelimiters : ∀ name ∈ [app, model, ""], NoDelimiter name := by
    simp only [List.forall_mem_cons]
    exact ⟨happ.noDelimiter, hmodel.noDelimiter, ⟨by decide, by decide, by decide⟩,
      List.forall_mem_nil _⟩
  have hsegments : segments? request.path = some [app, model, ""] := by
    rw [publishedAddress_eq] at htarget
    exact Route.segments?_path (List.cons_ne_nil _ _) htarget hdelimiters
  refine (dispatch?_eq_none_iff hmounts).mpr fun segments action parameters hsegments' => ?_
  obtain rfl : [app, model, ""] = segments := Option.some.inj (hsegments.symm.trans hsegments')
  intro hfound
  cases hfound with | resourceDetail hid =>
  exact hid rfl

def LeadsToList (table : Table) (request : Request) (app model : String) : Prop :=
  ∃ parameters, dispatch? table request.path = some (.resourceList, parameters) ∧
    decodeParameters parameters = .ok [app, model]

theorem leadsToList_of_target (htable : table.Reachable) (happ : IsPlainName app)
    (hmodel : IsPlainName model) (hplugins : app ≠ "plugins")
    (htarget : request.target = "/" ++ app ++ "/" ++ model) :
    LeadsToList table request app model := by
  obtain ⟨mounts, hmounts, rfl⟩ := htable.exists_mounts
  have hdelimiters : ∀ name ∈ [app, model], NoDelimiter name := by
    simp only [List.forall_mem_cons]
    exact ⟨happ.noDelimiter, hmodel.noDelimiter, List.forall_mem_nil _⟩
  have hsegments : segments? request.path = some [app, model] := by
    rw [← pathOf_list] at htarget
    exact Route.segments?_path (List.cons_ne_nil _ _) htarget hdelimiters
  have hown : [app, model] ∉ (ownPages mounts).map Prod.fst := by
    intro hmem
    obtain ⟨page, hpage, heq⟩ := List.mem_map.mp hmem
    rcases List.mem_append.mp hpage with hbase | hmount
    · simp only [List.mem_cons, List.not_mem_nil, or_false] at hbase
      rcases hbase with rfl | rfl | rfl
      · cases heq
      · cases heq
      · exact hplugins (List.cons.inj heq).1.symm
    · obtain ⟨m, _, rfl⟩ := List.mem_map.mp hmount
      exact hplugins (List.cons.inj heq).1.symm
  refine ⟨_, (dispatch?_eq_some_iff hmounts).mpr
    ⟨_, hsegments, .resourceList hmodel.1, Or.inr hown⟩, ?_⟩
  rw [Route.decodeParameters_eq_ok_iff]
  simp only [List.map_cons, List.map_nil, happ.decode?, hmodel.decode?]

/-- The navigation bar links to every list that the menu publishes, but the link is answered as not
found, while the same address without the slash at its end leads to the list. -/
theorem menu_links_lead_nowhere (portal : Portal) (backend : Backend) (document item : Json)
    (app model : String) (htable : portal.table.Reachable) (happ : IsPlainName app)
    (hmodel : IsPlainName model) (hplugins : app ≠ "plugins")
    (hmenu : (Fetch.json portal.settings.api.menuUrl).value backend = .ok document)
    (hitem : Menu.HoldsItem document (publishedAddress app model) item) :
    ((View.loadNavigation portal.settings.api).value backend).HasLink
      (publishedAddress app model) (Menu.linkName (publishedAddress app model) item) ∧
    (∀ now (request : Request), request.method = "GET" →
      request.target = publishedAddress app model →
      dispatch? portal.table request.path = none ∧
        ((portal.answer now request).value backend).1.status = 404) ∧
    (∀ request : Request, request.target = "/" ++ app ++ "/" ++ model →
      LeadsToList portal.table request app model) := by
  refine ⟨?_, ?_, ?_⟩
  · rw [View.value_loadNavigation_of_ok hmenu]
    exact Page.Navigation.hasLink_of_holdsItem hitem (escape_publishedAddress happ hmodel)
  · intro now request hget htarget
    have hroute := dispatch?_publishedAddress htable happ hmodel htarget
    refine ⟨hroute, ?_⟩
    rw [value_answer_of_none (isRead_of_get hget) hroute]
    rfl
  · intro request htarget
    exact leadsToList_of_target htable happ hmodel hplugins htarget

def menuBackend : Backend := fun url =>
  if url = "http://localhost:8080/api/get-menu/" then
    .body ("[\x7b\"name\":\"DCIM\",\"groups\":\x7b\"Devices\":\x7b\"items\":\x7b" ++
      "\"/dcim/devices/\":\x7b\"name\":\"Devices\"\x7d\x7d\x7d\x7d\x7d]")
  else .refused 404

def deviceItem : Json := .object [("name", .string "Devices")]

def deviceMenu : Json :=
  .array [.object [("name", .string "DCIM"),
    ("groups", .object [("Devices", .object [("items",
      .object [("/dcim/devices/", deviceItem)])])])]]

theorem holdsItem_deviceMenu :
    Menu.HoldsItem deviceMenu (publishedAddress "dcim" "devices") deviceItem :=
  .intro List.mem_cons_self rfl List.mem_cons_self rfl List.mem_cons_self

theorem json_menuBackend :
    (Fetch.json basePortal.settings.api.menuUrl).value menuBackend = .ok deviceMenu := by
  cbv

theorem deviceMenu_links_lead_nowhere :
    basePortal.table.Reachable ∧ IsPlainName "dcim" ∧ IsPlainName "devices" ∧
    "dcim" ≠ "plugins" ∧
    (Fetch.json basePortal.settings.api.menuUrl).value menuBackend = .ok deviceMenu ∧
    Menu.HoldsItem deviceMenu "/dcim/devices/" deviceItem ∧
    ((View.loadNavigation basePortal.settings.api).value menuBackend).HasLink "/dcim/devices/"
      "Devices" ∧
    ((basePortal.answer ⟨0, 0, 0⟩ ⟨"GET", "/dcim/devices/", []⟩).value menuBackend).1.status = 404 ∧
    LeadsToList basePortal.table ⟨"GET", "/dcim/devices", []⟩ "dcim" "devices" := by
  have happ : IsPlainName "dcim" := by decide
  have hmodel : IsPlainName "devices" := by decide
  obtain ⟨hlink, hgone, hlist⟩ := menu_links_lead_nowhere basePortal menuBackend deviceMenu
    deviceItem "dcim" "devices" .base happ hmodel (by decide) json_menuBackend holdsItem_deviceMenu
  exact ⟨.base, happ, hmodel, by decide, json_menuBackend, holdsItem_deviceMenu, hlink,
    (hgone _ _ rfl rfl).2, hlist _ rfl⟩

theorem device_link_misses_list :
    IsPlainName "dcim" ∧ IsPlainName "devices" ∧ "dcim" ≠ "plugins" ∧
    Menu.HoldsItem deviceMenu "/dcim/devices/" deviceItem ∧
    ¬ LeadsToList basePortal.table ⟨"GET", "/dcim/devices/", []⟩ "dcim" "devices" := by
  refine ⟨by decide, by decide, by decide, holdsItem_deviceMenu, ?_⟩
  rintro ⟨parameters, hroute, _⟩
  have hnone : dispatch? basePortal.table (Request.path ⟨"GET", "/dcim/devices/", []⟩) = none := rfl
  rw [hnone] at hroute
  cases hroute

end NetworkPortal.Portal
