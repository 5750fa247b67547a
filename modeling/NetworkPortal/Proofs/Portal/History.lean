import NetworkPortal.Proofs.Portal.Build
import NetworkPortal.Proofs.Portal.Loading

/-! # Histories of plugin pages

Over any sequence of visits, the loader of a mounted plugin runs once for each visit that reads its
page, until it gives a page for the first time. From then on that page is shown and the loader
never runs again. Nothing else that the portal answers tells which pages are loaded.
-/
namespace NetworkPortal

open Plugin (Environment)
open Route (Mount WellMounted Table)

theorem Page.exists_layout_eq (title : String) (navigation : Navigation) (body : String) :
    ∃ before after, layout title navigation body = before ++ body ++ after := by
  refine ⟨opening title ++ navigation.html.write ++ "\n<main>\n",
    "\n</main>\n</body>\n</html>", ?_⟩
  simp only [layout, closing, String.append_assoc]

structure Exchange where
  visit : Visit
  before : Portal
  response : Http.Response
  after : Portal

namespace Exchange

def Runs (exchange : Exchange) (loader : Plugin.Loader) (count : Nat) : Prop :=
  exchange.after.environment.calls loader.key =
    exchange.before.environment.calls loader.key + count

def outcome (exchange : Exchange) (loader : Plugin.Loader) : Except PluginFault Markup :=
  loader.outcome exchange.visit.storage (exchange.before.environment.calls loader.key)

/-- The page of a plugin is shown: the markup of the plugin stands in the body of the page, which is
framed like any other. -/
structure ShowsPage (exchange : Exchange) (plugin : Plugin.Registration) (markup : Markup) :
    Prop where
  status : exchange.response.status = 200
  body : exchange.visit.request.method = "GET" →
    exchange.response.body = Page.layout plugin.title
      ((View.loadNavigation exchange.before.settings.api).value exchange.visit.backend) markup.html
  markup : exchange.visit.request.method = "GET" →
    ∃ before after, exchange.response.body = before ++ markup.html ++ after

def ShowsNoPage (exchange : Exchange) : Prop :=
  ∀ m ∈ exchange.before.table.mounts, exchange.visit.Reads m.mountPath →
    exchange.response.status ≠ 200

structure Fails (exchange : Exchange) (plugin : Plugin.Registration) : Prop where
  outcome : ∃ fault, exchange.outcome plugin.loader = .error fault
  runs : exchange.Runs plugin.loader 1
  status : exchange.response.status = 500

structure Loads (exchange : Exchange) (plugin : Plugin.Registration) (markup : Markup) : Prop where
  outcome : exchange.outcome plugin.loader = .ok markup
  runs : exchange.Runs plugin.loader 1
  shows : exchange.ShowsPage plugin markup

structure Keeps (exchange : Exchange) (plugin : Plugin.Registration) (markup : Markup) : Prop where
  runs : exchange.Runs plugin.loader 0
  shows : exchange.ShowsPage plugin markup

end Exchange

namespace Portal

def exchange (portal : Portal) (visit : Visit) : Exchange :=
  ⟨visit, portal, (portal.visit visit).1, (portal.visit visit).2⟩

def exchanges (portal : Portal) : List Visit → List Exchange
  | [] => []
  | visit :: rest => portal.exchange visit :: (portal.visit visit).2.exchanges rest

/-- Among the visits that read the page of a plugin, all fail up to the first that loads the page,
and all after it keep that page. -/
def LoadsOnce (plugin : Plugin.Registration) (exchanges : List Exchange) : Prop :=
  (∀ e ∈ exchanges, e.visit.Reads plugin.mountPath → e.Fails plugin) ∨
  ∃ before first after markup, exchanges = before ++ first :: after ∧
    (∀ e ∈ before, e.visit.Reads plugin.mountPath → e.Fails plugin) ∧
    (first.visit.Reads plugin.mountPath ∧ first.Loads plugin markup) ∧
    ∀ e ∈ after, e.visit.Reads plugin.mountPath → e.Keeps plugin markup

variable {portal : Portal} {plugin : Plugin.Registration} {pages : String → Option Markup}
  {environment : Environment} {visit : Visit} {markup : Markup}

theorem LoadsOnce.cons {exchange : Exchange} {rest : List Exchange}
    (hfails : exchange.visit.Reads plugin.mountPath → exchange.Fails plugin)
    (hrest : LoadsOnce plugin rest) : LoadsOnce plugin (exchange :: rest) := by
  rcases hrest with hall | ⟨before, first, after, markup, rfl, hbefore, hfirst, hafter⟩
  · exact Or.inl (List.forall_mem_cons.mpr ⟨hfails, hall⟩)
  · exact Or.inr ⟨exchange :: before, first, after, markup, rfl,
      List.forall_mem_cons.mpr ⟨hfails, hbefore⟩, hfirst, hafter⟩

/-! ## One exchange -/

theorem showsPage_of_response {exchange : Exchange} (h : exchange.response =
      exchange.before.pageResponse exchange.visit (.ofRegistration plugin) (.ok markup)) :
    exchange.ShowsPage plugin markup := by
  have hstatus : exchange.response.status = 200 := by
    rw [h]
    rfl
  have hbody : exchange.visit.request.method = "GET" →
      exchange.response.body = Page.layout plugin.title
        ((View.loadNavigation exchange.before.settings.api).value exchange.visit.backend)
        markup.html := by
    intro hget
    have hget' : (exchange.visit.request.method == "GET") = true := beq_iff_eq.mpr hget
    rw [h, pageResponse, hget']
    rfl
  refine ⟨hstatus, hbody, fun hget => ?_⟩
  rw [hbody hget]
  exact Page.exists_layout_eq _ _ _

theorem Fresh.exchange_keeps (h : portal.Fresh) (environment : Environment)
    (hm : Mount.ofRegistration plugin ∈ portal.table.mounts)
    (hreads : visit.Reads plugin.mountPath) (hpage : pages plugin.identifier = some markup) :
    ((portal.holding pages environment).exchange visit).Keeps plugin markup := by
  have hvisit := h.visit_of_loaded environment hm hreads hpage
  refine ⟨?_, showsPage_of_response (congrArg Prod.fst hvisit)⟩
  simp only [Exchange.Runs, exchange, hvisit]
  rfl

theorem Fresh.exchange_loads (h : portal.Fresh) (environment : Environment)
    (hm : Mount.ofRegistration plugin ∈ portal.table.mounts)
    (hreads : visit.Reads plugin.mountPath) (hpage : pages plugin.identifier = none)
    (hok : plugin.loader.outcome visit.storage (environment.calls plugin.loader.key) =
      .ok markup) :
    ((portal.holding pages environment).exchange visit).Loads plugin markup := by
  have hvisit := h.visit_of_ok environment hm hreads hpage hok
  refine ⟨hok, ?_, showsPage_of_response (congrArg Prod.fst hvisit)⟩
  simp only [Exchange.Runs, exchange, hvisit]
  exact Plugin.Loader.calls_run

theorem Fresh.exchange_fails (h : portal.Fresh) (environment : Environment)
    (hm : Mount.ofRegistration plugin ∈ portal.table.mounts)
    (hreads : visit.Reads plugin.mountPath) (hpage : pages plugin.identifier = none)
    {fault : PluginFault}
    (herror : plugin.loader.outcome visit.storage (environment.calls plugin.loader.key) =
      .error fault) :
    ((portal.holding pages environment).exchange visit).Fails plugin := by
  have hvisit := h.visit_of_error environment hm hreads hpage herror
  refine ⟨⟨fault, herror⟩, ?_, ?_⟩
  · simp only [Exchange.Runs, exchange, hvisit]
    exact Plugin.Loader.calls_run
  · simp only [exchange, hvisit]
    rfl

theorem reads_or_forall_not (portal : Portal) (visit : Visit) :
    (∃ m ∈ portal.table.mounts, visit.Reads m.mountPath) ∨
      ∀ m ∈ portal.table.mounts, ¬ visit.Reads m.mountPath := by
  refine or_iff_not_imp_left.mpr fun hnone m hm hreads => ?_
  exact hnone ⟨m, hm, hreads⟩

/-- A visit leaves alone what belongs to plugins whose pages it does not read. -/
theorem Fresh.exists_after (h : portal.Fresh) (pages : String → Option Markup)
    (environment : Environment) (visit : Visit) :
    ∃ pages' environment', ((portal.holding pages environment).visit visit).2 =
        portal.holding pages' environment' ∧
      (∀ m ∈ portal.table.mounts, ¬ visit.Reads m.mountPath →
        pages' m.identifier = pages m.identifier) ∧
      ∀ key, (∀ m ∈ portal.table.mounts, m.component.loader.key = key →
        ¬ visit.Reads m.mountPath) → environment'.calls key = environment.calls key := by
  rcases reads_or_forall_not portal visit with ⟨m, hm, hreads⟩ | hnot
  · refine ⟨_, _, congrArg Prod.snd (h.visit_mount pages environment hm hreads), ?_, ?_⟩
    · intro m' hm' hnot
      have hne : m'.identifier ≠ m.identifier := by
        intro hid
        exact hnot (h.mount_unique hm' hm hid ▸ hreads)
      exact Function.update_of_ne hne _ _
    · intro key hnot
      have hne : key ≠ m.component.loader.key := fun hkey => hnot m hm hkey.symm hreads
      exact Plugin.Component.calls_resolve_of_ne (m.withPage pages).component _ hne
  · have hvisit := h.visit_of_not_reads pages environment hnot
    exact ⟨_, _, congrArg Prod.snd hvisit, fun _ _ _ => rfl, fun _ _ => rfl⟩

/-- What a visit is answered where the page of a plugin is read and not shown. -/
theorem Fresh.response_of_not_shown (h : portal.Fresh) (pages : String → Option Markup)
    (environment : Environment) {m : Mount} (hm : m ∈ portal.table.mounts)
    (hreads : visit.Reads m.mountPath)
    (hshows : ((portal.holding pages environment).exchange visit).ShowsNoPage) :
    ((portal.holding pages environment).visit visit).1 =
      portal.pageResponse visit m (.error (.other "")) := by
  have hmount : m.withPage pages ∈ (portal.holding pages environment).table.mounts := by
    rw [holding, Table.mounts_ofMounts]
    exact List.mem_map_of_mem hm
  have hnot : ((portal.holding pages environment).visit visit).1.status ≠ 200 :=
    hshows _ hmount hreads
  rw [h.visit_mount pages environment hm hreads] at hnot ⊢
  dsimp only at hnot ⊢
  -- The page that tells of a fault does not tell which fault it was.
  cases hpage : ((m.withPage pages).component.resolve
    { environment with storage := visit.storage }).1 with
  | ok markup =>
    rw [hpage] at hnot
    exact absurd rfl hnot
  | error fault => rfl

/-- Where no page of a plugin is shown, the answer does not tell which pages are loaded. -/
theorem Fresh.response_eq (h : portal.Fresh) (pages pages' : String → Option Markup)
    (environment environment' : Environment)
    (hshows : ((portal.holding pages environment).exchange visit).ShowsNoPage)
    (hshows' : ((portal.holding pages' environment').exchange visit).ShowsNoPage) :
    ((portal.holding pages environment).visit visit).1 =
      ((portal.holding pages' environment').visit visit).1 := by
  rcases reads_or_forall_not portal visit with ⟨m, hm, hreads⟩ | hnot
  · rw [h.response_of_not_shown pages environment hm hreads hshows,
      h.response_of_not_shown pages' environment' hm hreads hshows']
  · rw [h.visit_of_not_reads pages environment hnot, h.visit_of_not_reads pages' environment' hnot]

/-! ## Whole histories -/

theorem Fresh.exists_holding_of_mem (h : portal.Fresh) {visits : List Visit} {exchange : Exchange}
    (he : exchange ∈ (portal.holding pages environment).exchanges visits) :
    ∃ pages' environment' visit,
      exchange = (portal.holding pages' environment').exchange visit := by
  induction visits generalizing pages environment with
  | nil => exact absurd he List.not_mem_nil
  | cons visit rest ih =>
    rcases List.mem_cons.mp he with rfl | hrest
    · exact ⟨pages, environment, visit, rfl⟩
    · obtain ⟨pages', environment', hafter, _⟩ := h.exists_after pages environment visit
      rw [hafter] at hrest
      exact ih hrest

theorem Fresh.runs_zero (h : portal.Fresh) {visits : List Visit} {exchange : Exchange}
    (he : exchange ∈ (portal.holding pages environment).exchanges visits)
    {loader : Plugin.Loader} (hnot : ∀ m ∈ portal.table.mounts,
      m.component.loader.key = loader.key → ¬ exchange.visit.Reads m.mountPath) :
    exchange.Runs loader 0 := by
  obtain ⟨pages', environment', visit, rfl⟩ := h.exists_holding_of_mem he
  obtain ⟨_, _, hafter, _, hcalls⟩ := h.exists_after pages' environment' visit
  have hsame := hcalls loader.key hnot
  simp only [Exchange.Runs, Portal.exchange, hafter]
  exact hsame

theorem Fresh.keeps_of_loaded (h : portal.Fresh)
    (hm : Mount.ofRegistration plugin ∈ portal.table.mounts) (visits : List Visit)
    (hpage : pages plugin.identifier = some markup) :
    ∀ e ∈ (portal.holding pages environment).exchanges visits,
      e.visit.Reads plugin.mountPath → e.Keeps plugin markup := by
  induction visits generalizing pages environment with
  | nil => exact List.forall_mem_nil _
  | cons visit rest ih =>
    refine List.forall_mem_cons.mpr ⟨fun hreads => ?_, ?_⟩
    · exact h.exchange_keeps environment hm hreads hpage
    · by_cases hreads : visit.Reads plugin.mountPath
      · rw [h.visit_of_loaded environment hm hreads hpage]
        exact ih hpage
      · obtain ⟨pages', environment', hafter, hpages, _⟩ := h.exists_after pages environment visit
        rw [hafter]
        exact ih ((hpages _ hm hreads).trans hpage)

theorem Fresh.loadsOnce (h : portal.Fresh)
    (hm : Mount.ofRegistration plugin ∈ portal.table.mounts) (visits : List Visit)
    (hpage : pages plugin.identifier = none) :
    LoadsOnce plugin ((portal.holding pages environment).exchanges visits) := by
  induction visits generalizing pages environment with
  | nil => exact Or.inl (List.forall_mem_nil _)
  | cons visit rest ih =>
    by_cases hreads : visit.Reads plugin.mountPath
    · cases houtcome : plugin.loader.outcome visit.storage
        (environment.calls plugin.loader.key) with
      | ok markup =>
        have hloads := h.exchange_loads environment hm hreads hpage houtcome
        refine Or.inr ⟨[], _, _, markup, rfl, List.forall_mem_nil _, ⟨hreads, hloads⟩, ?_⟩
        rw [h.visit_of_ok environment hm hreads hpage houtcome]
        exact h.keeps_of_loaded hm rest (Function.update_self _ _ _)
      | error fault =>
        have hfails := h.exchange_fails environment hm hreads hpage houtcome
        refine LoadsOnce.cons (fun _ => hfails) ?_
        rw [h.visit_of_error environment hm hreads hpage houtcome]
        exact ih hpage
    · obtain ⟨pages', environment', hafter, hpages, _⟩ := h.exists_after pages environment visit
      refine LoadsOnce.cons (fun hread => absurd hread hreads) ?_
      rw [hafter]
      exact ih ((hpages _ hm hreads).trans hpage)

/-! ## Portals that are built -/

variable {settings : Settings} {plugins : List Plugin.Registration}

theorem eq_of_build (hbuild : build settings plugins environment = .ok portal) :
    ∃ origins, portal = ⟨settings, origins, Table.base.register plugins, environment⟩ := by
  have horigins : "*" ∉ settings.server.origins := by
    intro hmem
    rw [build_of_mem plugins environment hmem] at hbuild
    cases hbuild
  obtain ⟨origins, hok⟩ := build_of_not_mem plugins environment horigins
  rw [hok] at hbuild
  exact ⟨origins, (Except.ok.inj hbuild).symm⟩

theorem exists_kept (hbuild : build settings plugins environment = .ok portal) :
    ∃ kept : List Plugin.Registration, kept.Sublist plugins ∧
      portal.table.mounts = kept.map .ofRegistration ∧
      WellMounted portal.table.mounts ∧ portal.table = .ofMounts portal.table.mounts := by
  obtain ⟨origins, rfl⟩ := eq_of_build hbuild
  obtain ⟨kept, hsub, hmounted, htable⟩ :=
    Route.exists_register_eq Route.wellMounted_nil plugins
  have hregister : Table.base.register plugins = .ofMounts (kept.map .ofRegistration) := htable
  have hmounts : (Table.base.register plugins).mounts = kept.map .ofRegistration := by
    rw [hregister, Table.mounts_ofMounts]
  refine ⟨kept, hsub, hmounts, ?_, ?_⟩
  · rw [hmounts]
    exact hmounted
  · rw [hmounts]
    exact hregister

theorem fresh_of_build (hbuild : build settings plugins environment = .ok portal) :
    portal.Fresh := by
  obtain ⟨kept, hsub, hmounts, hmounted, htable⟩ := exists_kept hbuild
  refine ⟨htable, hmounted, fun m hm => ?_⟩
  rw [hmounts] at hm
  obtain ⟨plugin, _, rfl⟩ := List.mem_map.mp hm
  rfl

theorem exists_plugin_of_mem (hbuild : build settings plugins environment = .ok portal)
    {m : Mount} (hm : m ∈ portal.table.mounts) : ∃ plugin ∈ plugins, m = .ofRegistration plugin := by
  obtain ⟨kept, hsub, hmounts, _⟩ := exists_kept hbuild
  rw [hmounts] at hm
  obtain ⟨plugin, hkept, rfl⟩ := List.mem_map.mp hm
  exact ⟨plugin, hsub.subset hkept, rfl⟩

theorem eq_ofRegistration_of_key (hbuild : build settings plugins environment = .ok portal)
    (hkeys : (plugins.map (·.loader.key)).Nodup) (hplugin : plugin ∈ plugins) {m : Mount}
    (hm : m ∈ portal.table.mounts) (hkey : m.component.loader.key = plugin.loader.key) :
    m = .ofRegistration plugin := by
  obtain ⟨other, hother, rfl⟩ := exists_plugin_of_mem hbuild hm
  rw [List.inj_on_of_nodup_map hkeys hother hplugin hkey]

/-- Over any visits to a portal that is built from plugins with loaders of their own: the loader
of a mounted plugin runs only where its page is read, once for each such visit up to the first that
gives a page, and never after it; the loader of any other plugin never runs; and every visit that
reads no page of a plugin is answered as by the portal as it was built. An answer that shows no page
of a plugin, be it that a page fails to load, is the same with any other pages loaded. -/
theorem plugins_load_lazily (settings : Settings) (plugins : List Plugin.Registration)
    (environment : Environment) (portal : Portal)
    (hkeys : (plugins.map (·.loader.key)).Nodup)
    (hbuild : build settings plugins environment = .ok portal) (visits : List Visit) :
    portal.environment = environment ∧
    (∀ plugin ∈ plugins, Mount.ofRegistration plugin ∈ portal.table.mounts →
      (∀ e ∈ portal.exchanges visits, ¬ e.visit.Reads plugin.mountPath →
        e.Runs plugin.loader 0) ∧
      LoadsOnce plugin (portal.exchanges visits)) ∧
    (∀ plugin ∈ plugins, Mount.ofRegistration plugin ∉ portal.table.mounts →
      ∀ e ∈ portal.exchanges visits, e.Runs plugin.loader 0) ∧
    (∀ e ∈ portal.exchanges visits,
      (∀ plugin ∈ plugins, Mount.ofRegistration plugin ∈ portal.table.mounts →
        ¬ e.visit.Reads plugin.mountPath) →
      e.response = (portal.visit e.visit).1) ∧
    ∀ e ∈ portal.exchanges visits, e.ShowsNoPage → ∀ pages environment',
      ((portal.holding pages environment').exchange e.visit).ShowsNoPage →
      e.response = ((portal.holding pages environment').visit e.visit).1 := by
  have hfresh := fresh_of_build hbuild
  have hstart := hfresh.holding_none
  refine ⟨?_, ?_, ?_, ?_, ?_⟩
  · obtain ⟨origins, rfl⟩ := eq_of_build hbuild
    rfl
  · intro plugin hplugin hmounted
    constructor
    · intro e he hnot
      rw [← hstart] at he
      refine hfresh.runs_zero he fun m hm hkey => ?_
      rw [eq_ofRegistration_of_key hbuild hkeys hplugin hm hkey]
      exact hnot
    · rw [← hstart]
      exact hfresh.loadsOnce hmounted visits rfl
  · intro plugin hplugin hunmounted e he
    rw [← hstart] at he
    refine hfresh.runs_zero he fun m hm hkey => absurd hm ?_
    rw [eq_ofRegistration_of_key hbuild hkeys hplugin hm hkey]
    exact hunmounted
  · intro e he hnot
    rw [← hstart] at he
    obtain ⟨pages, environment', visit, rfl⟩ := hfresh.exists_holding_of_mem he
    have hnone : ∀ m ∈ portal.table.mounts, ¬ visit.Reads m.mountPath := by
      intro m hm
      obtain ⟨plugin, hplugin, rfl⟩ := exists_plugin_of_mem hbuild hm
      exact hnot plugin hplugin hm
    have hvisit := hfresh.visit_of_not_reads pages environment' hnone
    have hresponse := congrArg Prod.fst hvisit
    exact hresponse
  · intro e he hshows pages environment' hshows'
    rw [← hstart] at he
    obtain ⟨pages₀, environment₀, visit, rfl⟩ := hfresh.exists_holding_of_mem he
    exact hfresh.response_eq pages₀ pages environment₀ environment' hshows hshows'

/-- A plugin that fails to load twice. -/
def flakyPlugin : Plugin.Registration :=
  ⟨"flaky", "flaky", "Flaky", .supplied 0 fun calls =>
    if calls < 2 then .error (.other "not yet") else .ok ⟨"<p>up</p>"⟩⟩

def steadyPlugin : Plugin.Registration :=
  ⟨"steady", "steady", "Steady", .supplied 1 fun _ => .ok ⟨"<p>steady</p>"⟩⟩

/-- A plugin that cannot be mounted. -/
def strayPlugin : Plugin.Registration := ⟨"stray", "a/b", "Stray", .file "stray.html"⟩

def shownPlugins : List Plugin.Registration := [flakyPlugin, steadyPlugin, strayPlugin]

def shownPortal : Portal :=
  ⟨.defaults "plugins", .any, Table.base.register shownPlugins, ⟨{}, fun _ => 0⟩⟩

def visitTo (method path : String) : Visit :=
  ⟨⟨0, 0, 0⟩, fun _ => .refused 404, {}, ⟨method, path, []⟩⟩

def shownVisits : List Visit :=
  [visitTo "GET" "/plugins/flaky", visitTo "GET" "/plugins/steady",
    visitTo "GET" "/plugins/flaky", visitTo "GET" "/plugins/flaky",
    visitTo "HEAD" "/plugins/flaky"]

/-- The second failure is answered as the first, though another plugin is loaded by then. -/
theorem flakyPlugin_loads_lazily :
    (shownPlugins.map (·.loader.key)).Nodup ∧
    build (.defaults "plugins") shownPlugins ⟨{}, fun _ => 0⟩ = .ok shownPortal ∧
    Mount.ofRegistration flakyPlugin ∈ shownPortal.table.mounts ∧
    LoadsOnce flakyPlugin (shownPortal.exchanges shownVisits) ∧
    (∀ e ∈ shownPortal.exchanges shownVisits, e.Runs strayPlugin.loader 0) ∧
    ∃ first second third fourth fifth,
      shownPortal.exchanges shownVisits = [first, second, third, fourth, fifth] ∧
      [first, second, third, fourth, fifth].map (fun e =>
        (e.response.status, e.after.environment.calls flakyPlugin.loader.key)) =
        [(500, 1), (200, 1), (500, 2), (200, 3), (200, 3)] ∧
      third.response = first.response ∧
      ∃ before after, fourth.response.body = before ++ "<p>up</p>" ++ after := by
  have hkeys : (shownPlugins.map (·.loader.key)).Nodup := by decide
  obtain ⟨router, hrouter⟩ := exists_router shownPlugins
  have hbuild : build (.defaults "plugins") shownPlugins ⟨{}, fun _ => 0⟩ = .ok shownPortal := by
    rw [build, hrouter]
    rfl
  obtain ⟨_, hloads, hidle, _, hsame⟩ := plugins_load_lazily _ _ _ _ hkeys hbuild shownVisits
  have hmounts : shownPortal.table.mounts =
      [.ofRegistration flakyPlugin, .ofRegistration steadyPlugin] := rfl
  have hmounted : Mount.ofRegistration flakyPlugin ∈ shownPortal.table.mounts := by
    rw [hmounts]
    exact List.mem_cons_self
  have hunmounted : Mount.ofRegistration strayPlugin ∉ shownPortal.table.mounts := by
    rw [hmounts]
    intro hmem
    have hid : "stray" ∈ ["flaky", "steady"] := List.mem_map_of_mem (f := Mount.identifier) hmem
    exact absurd hid (by decide)
  have hstray : strayPlugin ∈ shownPlugins := by simp [shownPlugins]
  refine ⟨hkeys, hbuild, hmounted, (hloads _ List.mem_cons_self hmounted).2,
    hidle _ hstray hunmounted, _, _, _, _, _, rfl, by decide +kernel, ?_, ?_⟩
  · have hstart := (fresh_of_build hbuild).holding_none
    refine (hsame _ (List.mem_of_getElem? (i := 2) rfl) (fun _ _ _ => ?_) (fun _ => none)
      shownPortal.environment (fun _ _ _ => ?_)).trans ?_
    · decide +kernel
    · decide +kernel
    · rw [hstart]
      rfl
  · obtain ⟨before, after, hlayout⟩ := Page.exists_layout_eq "Flaky" .failed "<p>up</p>"
    refine ⟨before, after, Eq.trans ?_ hlayout⟩
    decide +kernel

end Portal

end NetworkPortal
