import Mathlib.Logic.Function.Basic
import NetworkPortal.Proofs.Plugin.Component
import NetworkPortal.Proofs.Portal.Answer
import NetworkPortal.Proofs.Portal.Paths

/-! # One visit to a portal

What a portal becomes as it is visited is told by the pages that are loaded and by how often each
loader has run. A visit that reads the page of a plugin resolves the component of this plugin alone.
Any other visit changes neither, and is answered as if nothing were loaded.
-/
namespace NetworkPortal

open Plugin (Environment)
open Route (Mount WellMounted Table)

def Route.Mount.withPage (pages : String → Option Markup) (mount : Mount) : Mount :=
  { mount with component := { mount.component with loaded := pages mount.identifier } }

namespace Route.Mount

variable {mount : Mount} {component : Plugin.Component} {pages : String → Option Markup}

theorem withComponent_withPage_self (h : component.loader = mount.component.loader) :
    (mount.withPage pages).withComponent mount.identifier component =
      mount.withPage (Function.update pages mount.identifier component.loaded) := by
  obtain ⟨loader, loaded⟩ := component
  obtain rfl : loader = mount.component.loader := h
  have hid : (mount.withPage pages).identifier = mount.identifier := rfl
  rw [withComponent, if_pos hid, withPage, withPage, Function.update_self]

theorem withComponent_withPage_of_ne {identifier : String} (h : mount.identifier ≠ identifier) :
    (mount.withPage pages).withComponent identifier component =
      mount.withPage (Function.update pages identifier component.loaded) := by
  have hid : (mount.withPage pages).identifier ≠ identifier := h
  rw [withComponent, if_neg hid, withPage, withPage, Function.update_of_ne h]

end Route.Mount

theorem Page.pluginsBody_map_withPage (pages : String → Option Markup) (mounts : List Mount) :
    pluginsBody (mounts.map (Mount.withPage pages)) = pluginsBody mounts := by
  have hlines : (mounts.map (Mount.withPage pages)).map mountLine = mounts.map mountLine := by
    rw [List.map_map]
    rfl
  simp only [pluginsBody, List.isEmpty_map, hlines]

/-- A request with the time, the backend and the files that it meets. -/
structure Visit where
  now : Time.Instant
  backend : Backend
  storage : Storage
  request : Http.Request

namespace Portal

def visit (portal : Portal) (visit : Visit) : Http.Response × Portal :=
  let environment := { portal.environment with storage := visit.storage }
  (({ portal with environment }).answer visit.now visit.request).value visit.backend

/-- The plugins are mounted in places of their own, and no page is loaded. -/
structure Fresh (portal : Portal) : Prop where
  table : portal.table = .ofMounts portal.table.mounts
  mounted : WellMounted portal.table.mounts
  unloaded : ∀ m ∈ portal.table.mounts, m.component.loaded = none

/-- The portal with other pages loaded, in another environment. -/
def holding (portal : Portal) (pages : String → Option Markup) (environment : Environment) :
    Portal :=
  { portal with
    table := .ofMounts (portal.table.mounts.map (Mount.withPage pages))
    environment }

end Portal

/-- A visit that reads what stands at a mount. -/
def Visit.Reads (visit : Visit) (mountPath : String) : Prop :=
  Portal.isRead visit.request.method = true ∧ visit.request.path = "/plugins/" ++ mountPath

namespace Portal

variable {portal : Portal} {mount : Mount} {pages pages' : String → Option Markup}
  {environment environment' : Environment} {visit : Visit}

theorem visit_holding :
    (portal.holding pages environment).visit visit =
      ((portal.holding pages { environment with storage := visit.storage }).answer visit.now
        visit.request).value visit.backend := rfl

theorem Fresh.holding_none (h : portal.Fresh) :
    portal.holding (fun _ => none) portal.environment = portal := by
  have hmounts : portal.table.mounts.map (Mount.withPage fun _ => none) = portal.table.mounts := by
    refine (List.map_congr_left fun m hm => ?_).trans (List.map_id _)
    rw [Mount.withPage, ← h.unloaded m hm, id]
  rw [holding, hmounts, ← h.table]

theorem Fresh.wellMounted (h : portal.Fresh) (pages : String → Option Markup) :
    WellMounted (portal.table.mounts.map (Mount.withPage pages)) :=
  h.mounted.map (fun _ => rfl) fun _ => rfl

theorem Fresh.mount_unique (h : portal.Fresh) {m m' : Mount} (hm : m ∈ portal.table.mounts)
    (hm' : m' ∈ portal.table.mounts) (hid : m.identifier = m'.identifier) : m = m' :=
  List.inj_on_of_nodup_map h.mounted.identifiers hm hm' hid

/-! ## Reading the page of a plugin -/

theorem Fresh.dispatch?_mount (h : portal.Fresh) (pages : String → Option Markup)
    (environment : Environment) (hm : mount ∈ portal.table.mounts) :
    Shows (portal.holding pages environment).table ("/plugins/" ++ mount.mountPath)
      (.plugin (mount.withPage pages)) := by
  refine ((showsByPath_ofMounts (h.wellMounted pages) _).plugin _).mpr ⟨?_, rfl⟩
  rw [Table.mounts_ofMounts]
  exact List.mem_map_of_mem hm

theorem Fresh.resolve_withPage (h : portal.Fresh) (pages : String → Option Markup)
    (environment : Environment) (hm : mount ∈ portal.table.mounts) :
    (portal.holding pages environment).table.resolve (mount.withPage pages) environment =
      let done := (mount.withPage pages).component.resolve environment
      (done.1, (portal.holding (Function.update pages mount.identifier done.2.1.loaded)
        environment).table, done.2.2) := by
  have hloader : ((mount.withPage pages).component.resolve environment).2.1.loader =
      mount.component.loader :=
    Plugin.Component.loader_resolve _ _
  have hset := Route.setComponent_ofMounts (portal.table.mounts.map (Mount.withPage pages))
    mount.identifier ((mount.withPage pages).component.resolve environment).2.1
  have hmap : (portal.table.mounts.map (Mount.withPage pages)).map
      (Mount.withComponent mount.identifier
        ((mount.withPage pages).component.resolve environment).2.1) =
      portal.table.mounts.map (Mount.withPage (Function.update pages mount.identifier
        ((mount.withPage pages).component.resolve environment).2.1.loaded)) := by
    rw [List.map_map]
    refine List.map_congr_left fun m' hm' => ?_
    by_cases hid : m'.identifier = mount.identifier
    · obtain rfl := h.mount_unique hm' hm hid
      exact Mount.withComponent_withPage_self hloader
    · exact Mount.withComponent_withPage_of_ne hid
  rw [hmap] at hset
  exact Prod.ext rfl (Prod.ext hset rfl)

theorem value_act_plugin {now : Time.Instant} {parameters : List (String × String)}
    {backend : Backend} :
    (portal.act now (.plugin mount) parameters).value backend =
      let done := portal.table.resolve mount portal.environment
      (viewContent ((View.pluginPage portal.settings.api mount done.1).value backend),
        { portal with table := done.2.1, environment := done.2.2 }) := rfl

/-- The response that shows the page of a plugin, or that there is none. -/
def pageResponse (portal : Portal) (visit : Visit) (mount : Mount)
    (page : Except PluginFault Markup) : Http.Response :=
  let view := (View.pluginPage portal.settings.api mount page).value visit.backend
  .ofContent view.status (some (.html view.text)) (portal.origins.headers visit.request)
    (visit.request.method == "GET")

theorem Fresh.visit_mount (h : portal.Fresh) (pages : String → Option Markup)
    (environment : Environment) (hm : mount ∈ portal.table.mounts)
    (hreads : visit.Reads mount.mountPath) :
    (portal.holding pages environment).visit visit =
      let done := (mount.withPage pages).component.resolve
        { environment with storage := visit.storage }
      (portal.pageResponse visit mount done.1,
        portal.holding (Function.update pages mount.identifier done.2.1.loaded) done.2.2) := by
  obtain ⟨hread, hpath⟩ := hreads
  obtain ⟨parameters, hroute⟩ := h.dispatch?_mount pages
    { environment with storage := visit.storage } hm
  rw [← hpath] at hroute
  rw [visit_holding, value_answer hread hroute]
  have hresolve := h.resolve_withPage pages { environment with storage := visit.storage } hm
  rw [value_act_plugin]
  simp only [holding] at hresolve ⊢
  rw [hresolve]
  rfl

theorem Fresh.visit_of_loaded (h : portal.Fresh) (environment : Environment)
    (hm : mount ∈ portal.table.mounts) (hreads : visit.Reads mount.mountPath) {markup : Markup}
    (hpage : pages mount.identifier = some markup) :
    (portal.holding pages environment).visit visit =
      (portal.pageResponse visit mount (.ok markup),
        portal.holding pages { environment with storage := visit.storage }) := by
  have hloaded : (mount.withPage pages).component.loaded = some markup := hpage
  have hupdate : Function.update pages mount.identifier (some markup) = pages := by
    rw [← hpage, Function.update_eq_self]
  have hresolve := Plugin.Component.resolve_of_loaded
    { environment with storage := visit.storage } hloaded
  rw [h.visit_mount pages environment hm hreads]
  simp only [hresolve, hloaded, hupdate]

theorem Fresh.visit_of_ok (h : portal.Fresh) (environment : Environment)
    (hm : mount ∈ portal.table.mounts) (hreads : visit.Reads mount.mountPath) {markup : Markup}
    (hpage : pages mount.identifier = none)
    (hok : mount.component.loader.outcome visit.storage
      (environment.calls mount.component.loader.key) = .ok markup) :
    (portal.holding pages environment).visit visit =
      (portal.pageResponse visit mount (.ok markup),
        portal.holding (Function.update pages mount.identifier (some markup))
          (mount.component.loader.run { environment with storage := visit.storage }).2) := by
  have hloaded : (mount.withPage pages).component.loaded = none := hpage
  have hresolve := Plugin.Component.resolve_of_ok
    { environment with storage := visit.storage } hloaded hok
  rw [h.visit_mount pages environment hm hreads]
  simp only [hresolve]
  rfl

theorem Fresh.visit_of_error (h : portal.Fresh) (environment : Environment)
    (hm : mount ∈ portal.table.mounts) (hreads : visit.Reads mount.mountPath) {fault : PluginFault}
    (hpage : pages mount.identifier = none)
    (herror : mount.component.loader.outcome visit.storage
      (environment.calls mount.component.loader.key) = .error fault) :
    (portal.holding pages environment).visit visit =
      (portal.pageResponse visit mount (.error fault),
        portal.holding pages
          (mount.component.loader.run { environment with storage := visit.storage }).2) := by
  have hloaded : (mount.withPage pages).component.loaded = none := hpage
  have hupdate : Function.update pages mount.identifier none = pages := by
    rw [← hpage, Function.update_eq_self]
  have hresolve := Plugin.Component.resolve_of_error
    { environment with storage := visit.storage } hloaded herror
  rw [h.visit_mount pages environment hm hreads]
  simp only [hresolve, hloaded, hupdate]
  rfl

/-! ## Any other visit -/

theorem Fresh.dispatch?_of_ne (h : portal.Fresh) (pages : String → Option Markup)
    (environment : Environment) {path : String}
    (hne : ∀ m ∈ portal.table.mounts, path ≠ "/plugins/" ++ m.mountPath) :
    dispatch? (portal.holding pages environment).table path = dispatch? .base path := by
  refine dispatch?_ofMounts_of_ne (h.wellMounted pages) fun m hm => ?_
  obtain ⟨m', hm', rfl⟩ := List.mem_map.mp hm
  exact hne m' hm'

theorem Fresh.isSome_dispatch? (h : portal.Fresh) (path : String) :
    (dispatch? (portal.holding pages environment).table path).isSome =
      (dispatch? (portal.holding pages' environment').table path).isSome := by
  by_cases hmount : ∃ m ∈ portal.table.mounts, path = "/plugins/" ++ m.mountPath
  · obtain ⟨m, hm, rfl⟩ := hmount
    obtain ⟨parameters, hroute⟩ := h.dispatch?_mount pages environment hm
    obtain ⟨parameters', hroute'⟩ := h.dispatch?_mount pages' environment' hm
    rw [hroute, hroute', Option.isSome_some, Option.isSome_some]
  · have hne : ∀ m ∈ portal.table.mounts, path ≠ "/plugins/" ++ m.mountPath :=
      fun m hm hpath => hmount ⟨m, hm, hpath⟩
    rw [h.dispatch?_of_ne _ _ hne, h.dispatch?_of_ne _ _ hne]

theorem ne_plugin_of_dispatch?_base {path : String} {action : Action}
    {parameters : List (String × String)}
    (hroute : dispatch? .base path = some (action, parameters)) (mount : Mount) :
    action ≠ .plugin mount := by
  rintro rfl
  have hshows := (showsByPath_ofMounts Route.wellMounted_nil path).plugin mount
  obtain ⟨hmem, _⟩ := hshows.mp ⟨parameters, hroute⟩
  rw [Table.mounts_ofMounts] at hmem
  exact List.not_mem_nil hmem

theorem Fresh.answer_of_not_reads (h : portal.Fresh) {now : Time.Instant} {request : Http.Request}
    {backend : Backend} (hnot : ∀ m ∈ portal.table.mounts,
      ¬ (isRead request.method = true ∧ request.path = "/plugins/" ++ m.mountPath)) :
    ((portal.holding pages environment).answer now request).value backend =
      ((((portal.holding pages' environment').answer now request).value backend).1,
        portal.holding pages environment) := by
  by_cases hread : isRead request.method = true
  · have hne : ∀ m ∈ portal.table.mounts, request.path ≠ "/plugins/" ++ m.mountPath :=
      fun m hm hpath => hnot m hm ⟨hread, hpath⟩
    have hroute := h.dispatch?_of_ne pages environment hne
    have hroute' := h.dispatch?_of_ne pages' environment' hne
    cases hbase : dispatch? .base request.path with
    | none =>
      rw [hbase] at hroute hroute'
      rw [value_answer_of_none hread hroute, value_answer_of_none hread hroute']
      rfl
    | some found =>
      obtain ⟨action, parameters⟩ := found
      rw [hbase] at hroute hroute'
      have hlisting : Page.pluginsBody (portal.holding pages environment).table.mounts =
          Page.pluginsBody (portal.holding pages' environment').table.mounts := by
        simp only [holding, Table.mounts_ofMounts, Page.pluginsBody_map_withPage]
      have hact : ((portal.holding pages environment).act now action parameters).value backend =
          ((((portal.holding pages' environment').act now action parameters).value backend).1,
            portal.holding pages environment) :=
        value_act_congr (ne_plugin_of_dispatch?_base hbase) rfl hlisting
      rw [value_answer hread hroute, value_answer hread hroute', hact]
      rfl
  · exact value_answer_congr_of_not_isRead (Bool.eq_false_iff.mpr hread) rfl
      (h.isSome_dispatch? request.path)

/-- A visit that reads no page of a plugin changes nothing but the files. -/
theorem Fresh.visit_of_not_reads (h : portal.Fresh) (pages : String → Option Markup)
    (environment : Environment)
    (hnot : ∀ m ∈ portal.table.mounts, ¬ visit.Reads m.mountPath) :
    (portal.holding pages environment).visit visit =
      ((portal.visit visit).1,
        portal.holding pages { environment with storage := visit.storage }) := by
  have hfresh : (portal.visit visit).1 =
      ((portal.holding (fun _ => none) portal.environment).visit visit).1 := by
    rw [h.holding_none]
  rw [hfresh, visit_holding, visit_holding]
  exact h.answer_of_not_reads hnot

end Portal

end NetworkPortal
