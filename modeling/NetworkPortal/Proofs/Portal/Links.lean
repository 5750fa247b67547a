import NetworkPortal.Proofs.Portal.Traffic
import NetworkPortal.Proofs.Route.Link

/-! # Links of a list

A line of a list links to a resource by its names as they stand. The link leads back to the resource
exactly if its names are verbatim, and a resource with other names is reached by a link with encoded
names only.
-/
namespace NetworkPortal.Portal

open Http (Request)
open Page (ListItem)
open Route (Table IsVerbatim ReadsAs pathOf decodeParameters)
open Settings (AllSafe)
open Text.Percent (encode)

/-- A request is answered with the resource that has the given names. -/
def LeadsTo (table : Table) (request : Request) (names : List String) : Prop :=
  ∃ parameters, dispatch? table request.path = some (.resourceDetail, parameters) ∧
    decodeParameters parameters = .ok names

variable {table : Table} {request : Request} {app model id : String}

theorem leadsTo_iff (htable : table.Reachable) (hid : id ≠ "") :
    LeadsTo table request [app, model, id] ↔ ReadsAs request [app, model, id] := by
  constructor
  · rintro ⟨parameters, hroute, hdecoded⟩
    obtain ⟨segments, hsegments, hfound⟩ := found_of_dispatch? htable hroute
    cases hfound with | resourceDetail =>
    exact ⟨_, hsegments, Route.decodeParameters_eq_ok_iff.mp hdecoded⟩
  · rintro ⟨raws, hsegments, hdecoded⟩
    have hlength : raws.length = 3 := by simpa using congrArg List.length hdecoded
    match raws, hlength, hdecoded with
    | [app', model', id'], _, hdecoded =>
      have hid' : id' ≠ "" := by
        rintro rfl
        have hempty : Text.Percent.decode? "" = some "" := by decide
        simp only [List.map_cons, hempty, List.cons.injEq, Option.some.injEq] at hdecoded
        exact hid hdecoded.2.2.1.symm
      exact ⟨_, dispatch?_resourceDetail htable hsegments hid',
        Route.decodeParameters_eq_ok_iff.mpr hdecoded⟩

theorem leadsTo_encode (htable : table.Reachable) (hsafe : AllSafe [app, model, id])
    (htarget : request.target = pathOf ([app, model, id].map encode)) :
    LeadsTo table request [app, model, id] := by
  have hid : id ≠ "" := (Settings.ne_of_isSafeSegment (hsafe id (by simp))).1
  exact (leadsTo_iff htable hid).mpr (Route.readsAs_of_encode (by simp) htarget)

theorem objectUrl_mem_asked {portal : Portal} (now : Time.Instant) (backend : Backend)
    (hget : request.method = "GET") (hsafe : AllSafe [app, model, id])
    (h : LeadsTo portal.table request [app, model, id]) :
    portal.settings.api.objectUrl app model id ∈ (portal.answer now request).asked backend := by
  obtain ⟨parameters, hroute, hdecoded⟩ := h
  have hread : isRead request.method = true := by
    rw [hget]
    decide
  rw [asked_answer now hread hroute, asked_act_detail now hdecoded,
    View.asked_detail_of_safe now hsafe]
  simp

/-- `item` is the line of an element of a listing whose identifier reads `id`. -/
def IsLineOf (listing : Json) (app model id : String) (item : ListItem) : Prop :=
  ∃ members ∈ (ListItem.elements listing).filterMap Json.object?,
    ListItem.memberText? members "id" = some id ∧ item = .ofMembers app model members

theorem exists_isLineOf_iff {listing : Json} {item : ListItem} :
    (∃ id, IsLineOf listing app model id item) ↔
      item ∈ ListItem.ofListing listing app model ∧ item.href.isSome = true := by
  constructor
  · rintro ⟨id, members, hmembers, hid, rfl⟩
    refine ⟨List.mem_map_of_mem hmembers, ?_⟩
    simp [ListItem.ofMembers, hid]
  · rintro ⟨hitem, hhref⟩
    obtain ⟨members, hmembers, rfl⟩ := List.mem_map.mp hitem
    obtain ⟨href, hhref⟩ := Option.isSome_iff_exists.mp hhref
    obtain ⟨id, hid, _⟩ := Option.map_eq_some_iff.mp hhref
    exact ⟨id, members, hmembers, hid, rfl⟩

theorem href_of_isLineOf {listing : Json} {item : ListItem}
    (h : IsLineOf listing app model id item) : item.href = some (pathOf [app, model, id]) := by
  obtain ⟨members, _, hid, rfl⟩ := h
  rw [ListItem.ofMembers, hid, Option.map_some, Option.some.injEq]
  apply String.toList_inj.mp
  simp [pathOf]

/-- The link of a line with safe names leads back to the resource of the line, so that the resource
is asked for, exactly if its names are verbatim. -/
theorem line_leads_back_iff (portal : Portal) (listing : Json) (app model id : String)
    (item : ListItem) (htable : portal.table.Reachable) (hsafe : AllSafe [app, model, id])
    (hitem : IsLineOf listing app model id item) :
    item ∈ ListItem.ofListing listing app model ∧ ∃ href, item.href = some href ∧
      ∀ request : Request, request.method = "GET" → request.target = href →
        (LeadsTo portal.table request [app, model, id] ↔
          ∀ name ∈ [app, model, id], IsVerbatim name) ∧
        ((∀ name ∈ [app, model, id], IsVerbatim name) → ∀ now backend,
          portal.settings.api.objectUrl app model id ∈
            (portal.answer now request).asked backend) := by
  have hid : id ≠ "" := (Settings.ne_of_isSafeSegment (hsafe id (by simp))).1
  refine ⟨(exists_isLineOf_iff.mp ⟨id, hitem⟩).1, pathOf [app, model, id],
    href_of_isLineOf hitem, fun request hget htarget => ?_⟩
  have hleads : LeadsTo portal.table request [app, model, id] ↔
      ∀ name ∈ [app, model, id], IsVerbatim name :=
    (leadsTo_iff htable hid).trans (Route.readsAs_iff (List.cons_ne_nil _ _) htarget)
  exact ⟨hleads, fun hverbatim now backend =>
    objectUrl_mem_asked now backend hget hsafe (hleads.mpr hverbatim)⟩

def cableListing (id : String) : Json := .array [.object [("id", .string id)]]

theorem isLineOf_cableListing {id : String} (hid : id ≠ "") :
    IsLineOf (cableListing id) "dcim" "cables" id
      (.ofMembers "dcim" "cables" [("id", .string id)]) := by
  refine ⟨[("id", .string id)], List.mem_singleton_self _, ?_, rfl⟩
  simp [ListItem.memberText?, Keyed.get?, ListItem.usableText?, hid]

theorem cable_leads_back :
    basePortal.table.Reachable ∧ AllSafe ["dcim", "cables", "100%"] ∧
    IsLineOf (cableListing "100%") "dcim" "cables" "100%"
      (.ofMembers "dcim" "cables" [("id", .string "100%")]) ∧
    LeadsTo basePortal.table ⟨"GET", "/dcim/cables/100%", []⟩ ["dcim", "cables", "100%"] ∧
    basePortal.settings.api.objectUrl "dcim" "cables" "100%" ∈
      (basePortal.answer ⟨0, 0, 0⟩ ⟨"GET", "/dcim/cables/100%", []⟩).asked bareBackend := by
  have hsafe : AllSafe ["dcim", "cables", "100%"] := by decide +kernel
  have hline := isLineOf_cableListing (show "100%" ≠ "" by decide)
  have hverbatim : ∀ name ∈ ["dcim", "cables", "100%"], IsVerbatim name := by decide +kernel
  obtain ⟨_, href, hhref, hleads⟩ := line_leads_back_iff basePortal _ _ _ _ _ .base hsafe hline
  obtain rfl : "/dcim/cables/100%" = href := Option.some.inj hhref
  obtain ⟨hiff, hasked⟩ := hleads ⟨"GET", "/dcim/cables/100%", []⟩ rfl rfl
  exact ⟨.base, hsafe, hline, hiff.mpr hverbatim, hasked hverbatim _ _⟩

/-- The link of a cable whose identifier holds a slash leads nowhere, where an encoded one would lead
back. -/
theorem slashed_cable_leads_nowhere :
    AllSafe ["dcim", "cables", "a/b"] ∧
    ∃ item, IsLineOf (cableListing "a/b") "dcim" "cables" "a/b" item ∧
      item.href = some "/dcim/cables/a/b" ∧
      dispatch? basePortal.table (Request.path ⟨"GET", "/dcim/cables/a/b", []⟩) = none ∧
      LeadsTo basePortal.table ⟨"GET", pathOf (["dcim", "cables", "a/b"].map encode), []⟩
        ["dcim", "cables", "a/b"] := by
  have hsafe : AllSafe ["dcim", "cables", "a/b"] := by decide +kernel
  exact ⟨hsafe, _, isLineOf_cableListing (by decide), rfl, rfl, leadsTo_encode .base hsafe rfl⟩

end NetworkPortal.Portal
