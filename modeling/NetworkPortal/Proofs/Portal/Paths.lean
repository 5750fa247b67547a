import NetworkPortal.Proofs.Portal.Dispatch

/-! # Which path shows what

A page of its own stands at one path. Any other path of two or three segments shows a list or a
resource, and no further path shows anything. Plugins decide nothing but their own paths.
-/
namespace NetworkPortal.Portal

open Route (Mount WellMounted Router Pattern Table pathOf segments?)

variable {mounts : List Mount} {path : String} {segments : List String} {action : Action}
  {parameters : List (String × String)}

def ownPages (mounts : List Mount) : List (List String × Action) :=
  [([""], .home), (["health"], .health), (["plugins", "installed-plugins"], .installedPlugins)] ++
    mounts.map fun m => (["plugins", m.mountPath], .plugin m)

theorem found_nil_iff : Found mounts segments action [] ↔ (segments, action) ∈ ownPages mounts := by
  constructor
  · intro h
    cases h with
    | health => simp [ownPages]
    | home => simp [ownPages]
    | installedPlugins => simp [ownPages]
    | plugin hm => exact List.mem_append_right _ (List.mem_map.mpr ⟨_, hm, rfl⟩)
  · intro h
    rcases List.mem_append.mp h with hbase | hmount
    · simp only [List.mem_cons, List.not_mem_nil, or_false, Prod.mk.injEq] at hbase
      rcases hbase with ⟨rfl, rfl⟩ | ⟨rfl, rfl⟩ | ⟨rfl, rfl⟩
      · exact .home
      · exact .health
      · exact .installedPlugins
    · obtain ⟨m, hm, heq⟩ := List.mem_map.mp hmount
      obtain ⟨rfl, rfl⟩ := Prod.mk.inj heq
      exact .plugin hm

theorem nodup_ownPages (h : WellMounted mounts) : ((ownPages mounts).map Prod.fst).Nodup := by
  have hmounts : (mounts.map fun m => ["plugins", m.mountPath]).Nodup := by
    refine (List.Nodup.of_map _ h.paths).map_on ?_
    intro m hm m' hm' heq
    have hpath : m.mountPath = m'.mountPath := by simpa using heq
    exact List.inj_on_of_nodup_map h.paths hm hm' hpath
  rw [ownPages, List.map_append, List.map_map]
  refine List.Nodup.append (by decide) hmounts ?_
  intro page hbase hmount
  obtain ⟨m, hm, rfl⟩ := List.mem_map.mp hmount
  have hlisting : m.mountPath ≠ "installed-plugins" := h.ne_listing m hm
  simp [hlisting] at hbase

/-- What is found for a path stands in the router, in a literal row if it has no parameters. -/
theorem exists_row_of_found (h : Found mounts segments action parameters) :
    ∃ pattern, (pattern, action) ∈ rows mounts ∧ pattern.match? segments = some parameters ∧
      (parameters = [] → pattern.isLiteral = true) := by
  have hbase {row : Pattern × Action} (hrow : row ∈ baseRows) : row ∈ rows mounts :=
    List.mem_append_left _ hrow
  cases h with
  | health => exact ⟨_, hbase List.mem_cons_self, rfl, fun _ => rfl⟩
  | home => exact ⟨[.literal ""], hbase (by simp [baseRows]), rfl, fun _ => rfl⟩
  | installedPlugins =>
    exact ⟨[.literal "plugins", .literal "installed-plugins"], hbase (by simp [baseRows]), rfl,
      fun _ => rfl⟩
  | @plugin m hm =>
    have hrow : mountRow m ∈ rows mounts := List.mem_append_right _ (List.mem_map_of_mem hm)
    exact ⟨_, hrow, (Pattern.match?_literals_iff ["plugins", m.mountPath]).mpr ⟨rfl, rfl⟩,
      fun _ => rfl⟩
  | @resourceList app model hmodel =>
    have hmatch : Pattern.match? [.parameter "app_name", .parameter "model_name"] [app, model] =
        some [("app_name", app), ("model_name", model)] :=
      (Pattern.match?_parameters_iff "app_name" ["model_name"]).mpr
        ⟨rfl, by simpa using hmodel, rfl⟩
    exact ⟨_, hbase (by simp [baseRows]), hmatch,
      fun hnil => absurd hnil (List.cons_ne_nil _ _)⟩
  | @resourceDetail app model id hid =>
    have hmatch : Pattern.match?
        [.parameter "app_name", .parameter "model_name", .parameter "id"] [app, model, id] =
        some [("app_name", app), ("model_name", model), ("id", id)] :=
      (Pattern.match?_parameters_iff "app_name" ["model_name", "id"]).mpr
        ⟨rfl, by simpa using hid, rfl⟩
    exact ⟨_, hbase (by simp [baseRows]), hmatch,
      fun hnil => absurd hnil (List.cons_ne_nil _ _)⟩

/-- A page of its own comes before what has parameters. -/
def ComesFirst (mounts : List Mount) (segments : List String)
    (parameters : List (String × String)) : Prop :=
  parameters = [] ∨ segments ∉ (ownPages mounts).map Prod.fst

theorem Found.unique {other : Action} {parameters' : List (String × String)}
    (hmounts : WellMounted mounts) (h : Found mounts segments action parameters)
    (hfirst : ComesFirst mounts segments parameters)
    (h' : Found mounts segments other parameters')
    (hfirst' : ComesFirst mounts segments parameters') :
    (other, parameters') = (action, parameters) := by
  have hown {action : Action} (h : Found mounts segments action []) :
      segments ∈ (ownPages mounts).map Prod.fst :=
    List.mem_map_of_mem (f := Prod.fst) (found_nil_iff.mp h)
  rcases hfirst with rfl | hfirst
  · obtain rfl : parameters' = [] := hfirst'.resolve_right (not_not_intro (hown h))
    have hpair := List.inj_on_of_nodup_map (nodup_ownPages hmounts) (found_nil_iff.mp h')
      (found_nil_iff.mp h) rfl
    rw [(Prod.mk.inj hpair).2]
  · -- Neither has a page of its own, so the number of segments tells a list from a resource.
    have hne : parameters ≠ [] := fun hnil => hfirst (hown (hnil ▸ h))
    have hne' : parameters' ≠ [] := fun hnil => hfirst (hown (hnil ▸ h'))
    cases h with
    | resourceList => cases h' <;> first | rfl | exact absurd rfl hne'
    | resourceDetail => cases h'; rfl
    | _ => exact absurd rfl hne

/-- What the router answers is what is found for the segments of the path and comes first. -/
theorem dispatch?_eq_some_iff (h : WellMounted mounts) :
    dispatch? (.ofMounts mounts) path = some (action, parameters) ↔
      ∃ segments, segments? path = some segments ∧ Found mounts segments action parameters ∧
        ComesFirst mounts segments parameters := by
  have hforward {action : Action} {parameters : List (String × String)}
      (hroute : (rows mounts).dispatch? path = some (action, parameters)) :
      ∃ segments, segments? path = some segments ∧ Found mounts segments action parameters ∧
        ComesFirst mounts segments parameters := by
    obtain ⟨segments, pattern, hsegments, hrow, hmatch⟩ := Router.exists_row_of_dispatch? hroute
    refine ⟨segments, hsegments, found_of_mem_rows hrow hmatch, ?_⟩
    by_cases hown : segments ∈ (ownPages mounts).map Prod.fst
    · obtain ⟨⟨_, other⟩, hmem, rfl⟩ := List.mem_map.mp hown
      obtain ⟨literal, hliteral, hmatch', hisLiteral⟩ :=
        exists_row_of_found (found_nil_iff.mpr hmem)
      exact Or.inl (Router.values_eq_nil_of_dispatch? hroute hsegments hliteral (hisLiteral rfl)
        hmatch')
    · exact Or.inr hown
  rw [dispatch?_ofMounts h]
  constructor
  · exact hforward
  · rintro ⟨segments, hsegments, hfound, hfirst⟩
    obtain ⟨pattern, hrow, hmatch, _⟩ := exists_row_of_found hfound
    obtain ⟨⟨other, parameters'⟩, hroute⟩ :=
      Router.exists_dispatch?_eq_some hsegments hrow hmatch
    obtain ⟨segments', hsegments', hfound', hfirst'⟩ := hforward hroute
    obtain rfl : segments' = segments := Option.some.inj (hsegments'.symm.trans hsegments)
    rw [hroute, hfound.unique h hfirst hfound' hfirst']

theorem dispatch?_eq_none_iff (h : WellMounted mounts) :
    dispatch? (.ofMounts mounts) path = none ↔
      ∀ segments action parameters, segments? path = some segments →
        ¬ Found mounts segments action parameters := by
  constructor
  · intro hnone segments action parameters hsegments hfound
    obtain ⟨pattern, hrow, hmatch, _⟩ := exists_row_of_found hfound
    obtain ⟨found, hroute⟩ := Router.exists_dispatch?_eq_some hsegments hrow hmatch
    rw [dispatch?_ofMounts h, hroute] at hnone
    cases hnone
  · intro hnone
    cases hroute : dispatch? (.ofMounts mounts) path with
    | none => rfl
    | some found =>
      obtain ⟨segments, hsegments, hfound, _⟩ := (dispatch?_eq_some_iff h).mp hroute
      exact absurd hfound (hnone segments _ _ hsegments)

/-! ## Paths in full -/

def IsListPath (path app model : String) : Prop :=
  '/' ∉ app.toList ∧ '/' ∉ model.toList ∧ model ≠ "" ∧ path = "/" ++ app ++ "/" ++ model

def IsDetailPath (path app model id : String) : Prop :=
  '/' ∉ app.toList ∧ '/' ∉ model.toList ∧ '/' ∉ id.toList ∧ id ≠ "" ∧
    path = "/" ++ app ++ "/" ++ model ++ "/" ++ id

theorem pathOf_list (app model : String) : pathOf [app, model] = "/" ++ app ++ "/" ++ model := by
  apply String.toList_inj.mp
  simp [pathOf]

theorem isListPath_iff {app model : String} :
    IsListPath path app model ↔ segments? path = some [app, model] ∧ model ≠ "" := by
  rw [Route.segments?_eq_some_iff, pathOf_list]
  simp only [IsListPath, List.forall_mem_cons]
  tauto

theorem isDetailPath_iff {app model id : String} :
    IsDetailPath path app model id ↔ segments? path = some [app, model, id] ∧ id ≠ "" := by
  have hpath : pathOf [app, model, id] = "/" ++ app ++ "/" ++ model ++ "/" ++ id := by
    apply String.toList_inj.mp
    simp [pathOf]
  rw [Route.segments?_eq_some_iff, hpath]
  simp only [IsDetailPath, List.forall_mem_cons]
  tauto

def ownPaths (table : Table) : List String :=
  ["/", "/health", "/plugins/installed-plugins"] ++ table.mounts.map ("/plugins/" ++ ·.mountPath)

theorem pathOf_mount (m : Mount) : pathOf ["plugins", m.mountPath] = "/plugins/" ++ m.mountPath :=
  pathOf_list "plugins" m.mountPath

theorem ownPaths_ofMounts (mounts : List Mount) :
    ownPaths (.ofMounts mounts) = (ownPages mounts).map (pathOf ·.1) := by
  have hbase : ["/", "/health", "/plugins/installed-plugins"] =
      [pathOf [""], pathOf ["health"], pathOf ["plugins", "installed-plugins"]] := by
    decide
  have hmounts : mounts.map ("/plugins/" ++ ·.mountPath) =
      mounts.map fun m => pathOf ["plugins", m.mountPath] :=
    List.map_congr_left fun m _ => (pathOf_mount m).symm
  rw [ownPaths, Table.mounts_ofMounts, hbase, hmounts, ownPages, List.map_append, List.map_map]
  rfl

theorem segments?_of_mem_ownPages (h : WellMounted mounts) {page : List String × Action}
    (hpage : page ∈ ownPages mounts) : segments? (pathOf page.1) = some page.1 := by
  rcases List.mem_append.mp hpage with hbase | hmount
  · simp only [List.mem_cons, List.not_mem_nil, or_false] at hbase
    rcases hbase with rfl | rfl | rfl <;> decide
  · obtain ⟨m, hm, rfl⟩ := List.mem_map.mp hmount
    have hslash := (literal_of_isPathSegment (h.segment m hm)).1
    exact Route.segments?_pathOf (by simp) (by simp [hslash])

theorem mem_ownPages_iff (h : WellMounted mounts) (hsegments : segments? path = some segments) :
    segments ∈ (ownPages mounts).map Prod.fst ↔ path ∈ ownPaths (.ofMounts mounts) := by
  rw [ownPaths_ofMounts]
  constructor
  · intro hown
    obtain ⟨page, hpage, rfl⟩ := List.mem_map.mp hown
    exact List.mem_map.mpr ⟨page, hpage, (Route.pathOf_of_segments? hsegments).1⟩
  · intro hown
    obtain ⟨page, hpage, rfl⟩ := List.mem_map.mp hown
    rw [segments?_of_mem_ownPages h hpage] at hsegments
    exact List.mem_map.mpr ⟨page, hpage, Option.some.inj hsegments⟩

/-- A path is answered with an action, whatever its parameters. -/
def Shows (table : Table) (path : String) (action : Action) : Prop :=
  ∃ parameters, dispatch? table path = some (action, parameters)

/-- Every view is shown at its own paths, and nothing is shown at any other. -/
structure ShowsByPath (table : Table) (path : String) : Prop where
  home : Shows table path .home ↔ path = "/"
  health : Shows table path .health ↔ path = "/health"
  installedPlugins : Shows table path .installedPlugins ↔ path = "/plugins/installed-plugins"
  plugin : ∀ mount, Shows table path (.plugin mount) ↔
    mount ∈ table.mounts ∧ path = "/plugins/" ++ mount.mountPath
  resourceList : ∀ parameters, dispatch? table path = some (.resourceList, parameters) ↔
    path ∉ ownPaths table ∧ ∃ app model, IsListPath path app model ∧
      parameters = [("app_name", app), ("model_name", model)]
  resourceDetail : ∀ parameters, dispatch? table path = some (.resourceDetail, parameters) ↔
    path ∉ ownPaths table ∧ ∃ app model id, IsDetailPath path app model id ∧
      parameters = [("app_name", app), ("model_name", model), ("id", id)]
  nothing : dispatch? table path = none ↔
    path ∉ ownPaths table ∧ (∀ app model, ¬ IsListPath path app model) ∧
      ∀ app model id, ¬ IsDetailPath path app model id

theorem shows_own_iff (h : WellMounted mounts) (own : List String)
    (hpage : (own, action) ∈ ownPages mounts)
    (honly : ∀ segments parameters, Found mounts segments action parameters →
      segments = own) :
    Shows (.ofMounts mounts) path action ↔ path = pathOf own := by
  constructor
  · rintro ⟨parameters, hroute⟩
    obtain ⟨segments, hsegments, hfound, _⟩ := (dispatch?_eq_some_iff h).mp hroute
    rw [← honly segments parameters hfound]
    exact (Route.pathOf_of_segments? hsegments).1.symm
  · rintro rfl
    have hsegments := segments?_of_mem_ownPages h hpage
    exact ⟨[], (dispatch?_eq_some_iff h).mpr
      ⟨own, hsegments, found_nil_iff.mpr hpage, Or.inl rfl⟩⟩

theorem showsByPath_ofMounts (h : WellMounted mounts) (path : String) :
    ShowsByPath (.ofMounts mounts) path where
  home := shows_own_iff h [""] (by simp [ownPages]) (by
    intro segments parameters hfound
    cases hfound
    rfl)
  health := shows_own_iff h ["health"] (by simp [ownPages]) (by
    intro segments parameters hfound
    cases hfound
    rfl)
  installedPlugins := shows_own_iff h ["plugins", "installed-plugins"]
    (by simp [ownPages]) (by
    intro segments parameters hfound
    cases hfound
    rfl)
  plugin mount := by
    rw [Table.mounts_ofMounts, ← pathOf_mount]
    constructor
    · rintro ⟨parameters, hroute⟩
      obtain ⟨segments, hsegments, hfound, _⟩ := (dispatch?_eq_some_iff h).mp hroute
      cases hfound with | plugin hm =>
      exact ⟨hm, (Route.pathOf_of_segments? hsegments).1.symm⟩
    · rintro ⟨hm, hpath⟩
      refine (shows_own_iff h ["plugins", mount.mountPath] ?_ ?_).mpr hpath
      · exact List.mem_append_right _ (List.mem_map.mpr ⟨mount, hm, rfl⟩)
      · intro segments parameters hfound
        cases hfound
        rfl
  resourceList parameters := by
    rw [dispatch?_eq_some_iff h]
    constructor
    · rintro ⟨segments, hsegments, hfound, hfirst⟩
      rw [ComesFirst, mem_ownPages_iff h hsegments] at hfirst
      cases hfound with | @resourceList app model hmodel =>
      exact ⟨hfirst.resolve_left (by simp), app, model, isListPath_iff.mpr ⟨hsegments, hmodel⟩,
        rfl⟩
    · rintro ⟨hown, app, model, hpath, rfl⟩
      obtain ⟨hsegments, hmodel⟩ := isListPath_iff.mp hpath
      rw [← mem_ownPages_iff h hsegments] at hown
      exact ⟨_, hsegments, .resourceList hmodel, Or.inr hown⟩
  resourceDetail parameters := by
    rw [dispatch?_eq_some_iff h]
    constructor
    · rintro ⟨segments, hsegments, hfound, hfirst⟩
      rw [ComesFirst, mem_ownPages_iff h hsegments] at hfirst
      cases hfound with | @resourceDetail app model id hid =>
      exact ⟨hfirst.resolve_left (by simp), app, model, id,
        isDetailPath_iff.mpr ⟨hsegments, hid⟩, rfl⟩
    · rintro ⟨hown, app, model, id, hpath, rfl⟩
      obtain ⟨hsegments, hid⟩ := isDetailPath_iff.mp hpath
      rw [← mem_ownPages_iff h hsegments] at hown
      exact ⟨_, hsegments, .resourceDetail hid, Or.inr hown⟩
  nothing := by
    rw [dispatch?_eq_none_iff h]
    constructor
    · intro hnone
      refine ⟨?_, ?_, ?_⟩
      · rw [ownPaths_ofMounts]
        intro hown
        obtain ⟨page, hpage, rfl⟩ := List.mem_map.mp hown
        exact hnone _ _ _ (segments?_of_mem_ownPages h hpage) (found_nil_iff.mpr hpage)
      · intro app model hpath
        obtain ⟨hsegments, hmodel⟩ := isListPath_iff.mp hpath
        exact hnone _ _ _ hsegments (.resourceList hmodel)
      · intro app model id hpath
        obtain ⟨hsegments, hid⟩ := isDetailPath_iff.mp hpath
        exact hnone _ _ _ hsegments (.resourceDetail hid)
    · rintro ⟨hown, hlist, hdetail⟩ segments action parameters hsegments hfound
      rw [← mem_ownPages_iff h hsegments] at hown
      by_cases hnil : parameters = []
      · rw [hnil] at hfound
        exact hown (List.mem_map_of_mem (f := Prod.fst) (found_nil_iff.mp hfound))
      · cases hfound with
        | resourceList hmodel => exact hlist _ _ (isListPath_iff.mpr ⟨hsegments, hmodel⟩)
        | resourceDetail hid => exact hdetail _ _ _ (isDetailPath_iff.mpr ⟨hsegments, hid⟩)
        | _ => exact hnil rfl

theorem dispatch?_ofMounts_of_ne (h : WellMounted mounts)
    (hne : ∀ m ∈ mounts, path ≠ "/plugins/" ++ m.mountPath) :
    dispatch? (.ofMounts mounts) path = dispatch? .base path := by
  have hbase : dispatch? .base path = (rows []).dispatch? path :=
    dispatch?_ofMounts Route.wellMounted_nil path
  rw [dispatch?_ofMounts h, hbase]
  cases hsegments : segments? path with
  | none => simp only [Router.dispatch?, hsegments, Option.bind_none]
  | some segments =>
    have hmount : Router.matching (mounts.map mountRow) segments = [] := by
      refine List.filterMap_eq_nil_iff.mpr fun row hrow => ?_
      obtain ⟨m, hm, rfl⟩ := List.mem_map.mp hrow
      rw [Option.map_eq_none_iff, Option.eq_none_iff_forall_ne_some]
      intro parameters hmatch
      obtain ⟨rfl, _⟩ := (Pattern.match?_literals_iff ["plugins", m.mountPath]).mp hmatch
      have hpath := (Route.pathOf_of_segments? hsegments).1
      exact hne m hm (hpath.symm.trans (pathOf_mount m))
    have hmatching : (rows mounts).matching segments = (rows []).matching segments := by
      rw [rows, rows, Router.matching_append, Router.matching_append, hmount]
      rfl
    rw [Router.dispatch?_of_segments? _ hsegments, Router.dispatch?_of_segments? _ hsegments,
      hmatching]

/-- With any plugins, each path shows the one view it is meant for, and a path at which no plugin is
mounted shows what it would show without plugins. -/
theorem views_by_path (plugins : List Plugin.Registration) (path : String) :
    ShowsByPath (Table.base.register plugins) path ∧
      ((∀ mount ∈ (Table.base.register plugins).mounts, path ≠ "/plugins/" ++ mount.mountPath) →
        dispatch? (Table.base.register plugins) path = dispatch? .base path) := by
  obtain ⟨mounts, hmounts, htable⟩ := (Table.Reachable.base.register plugins).exists_mounts
  rw [htable, Table.mounts_ofMounts]
  exact ⟨showsByPath_ofMounts hmounts path, dispatch?_ofMounts_of_ne hmounts⟩

/-- One of two plugins for a path is mounted there, and a path that no plugin got is left to a
list. -/
theorem conflictingPlugins_views_by_path :
    (∃ mount, mount.identifier = "one" ∧
      Shows (Table.base.register Table.conflictingPlugins) "/plugins/shared" (.plugin mount)) ∧
    (∀ mount ∈ (Table.base.register Table.conflictingPlugins).mounts,
      "/plugins/other" ≠ "/plugins/" ++ mount.mountPath) ∧
    dispatch? (Table.base.register Table.conflictingPlugins) "/plugins/other" =
      some (.resourceList, [("app_name", "plugins"), ("model_name", "other")]) := by
  have hmounts : (Table.base.register Table.conflictingPlugins).mounts =
      [.ofRegistration ⟨"one", "shared", "One", .file "b"⟩,
        .ofRegistration ⟨"four", "..x", "Four", .file "f"⟩] := by rfl
  have hpaths : (Table.base.register Table.conflictingPlugins).mounts.map Mount.mountPath =
      ["shared", "..x"] := by
    rw [hmounts]
    rfl
  have hne : ∀ mount ∈ (Table.base.register Table.conflictingPlugins).mounts,
      "/plugins/other" ≠ "/plugins/" ++ mount.mountPath := by
    intro mount hmount heq
    have hmem : mount.mountPath ∈ ["shared", "..x"] := hpaths ▸ List.mem_map_of_mem hmount
    rw [List.mem_cons, List.mem_singleton] at hmem
    rcases hmem with hpath | hpath
    · rw [hpath] at heq
      exact absurd heq (by decide)
    · rw [hpath] at heq
      exact absurd heq (by decide)
  have hshared := (views_by_path Table.conflictingPlugins "/plugins/shared").1
  have hother := (views_by_path Table.conflictingPlugins "/plugins/other").2
  refine ⟨⟨.ofRegistration ⟨"one", "shared", "One", .file "b"⟩, rfl,
    (hshared.plugin _).mpr ⟨?_, rfl⟩⟩, hne, ?_⟩
  · rw [hmounts]
    exact List.mem_cons_self
  · rw [hother hne]
    rfl

end NetworkPortal.Portal
