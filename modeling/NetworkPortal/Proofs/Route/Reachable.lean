import Mathlib.Data.List.Nodup
import NetworkPortal.Route.Registration

/-! # Reachable route tables

A table is reached from the base table by mounting plugins any number of times, with pages being
loaded in between. Such a table is the base table with some mounts after the listing, no two of
which share an identifier or a path, and everything about it follows from that form.
-/
namespace NetworkPortal.Route

def groupChildren (mounts : List Mount) : List Entry :=
  .leaf listingPath .installedPlugins :: mounts.map .ofMount

/-- The base table with `mounts` in its plugin group. -/
def Table.ofMounts (mounts : List Mount) : Table :=
  ⟨[.leaf "/" .home,
    .leaf "/:app_name/:model_name" .resourceList,
    .leaf "/:app_name/:model_name/:id" .resourceDetail,
    ⟨pluginsPath, .group, groupChildren mounts⟩]⟩

/-- Mounts with identifiers and places of their own. -/
structure WellMounted (mounts : List Mount) : Prop where
  identifiers : (mounts.map Mount.identifier).Nodup
  paths : (mounts.map Mount.mountPath).Nodup
  segment : ∀ m ∈ mounts, Plugin.Manifest.isPathSegment m.mountPath = true
  ne_listing : ∀ m ∈ mounts, m.mountPath ≠ listingPath

theorem isPathSegment_iff {text : String} :
    Plugin.Manifest.isPathSegment text = true ↔ text ≠ "" ∧
      (∀ c ∈ text.toList, c.isAlphanum = true ∨ c = '-' ∨ c = '_' ∨ c = '.') ∧
      text ≠ "." ∧ text ≠ ".." := by
  simp [Plugin.Manifest.isPathSegment, Plugin.Manifest.isSegmentChar, and_assoc, or_assoc]

theorem wellMounted_nil : WellMounted [] :=
  ⟨List.nodup_nil, List.nodup_nil, List.forall_mem_nil _, List.forall_mem_nil _⟩

theorem isRegistered_groupChildren (mounts : List Mount) (identifier : String) :
    isRegistered (groupChildren mounts) identifier = true ↔
      identifier ∈ mounts.map Mount.identifier := by
  simp [isRegistered, groupChildren, Entry.leaf, Entry.ofMount]

theorem isTaken_groupChildren (mounts : List Mount) (path : String) :
    isTaken (groupChildren mounts) path = true ↔
      listingPath = path ∨ path ∈ mounts.map Mount.mountPath := by
  simp [isTaken, groupChildren, Entry.leaf, Entry.ofMount]

theorem mountOne_cases (mounts : List Mount) (plugin : Plugin.Registration) :
    mountOne (groupChildren mounts) plugin = groupChildren mounts ∨
      plugin.identifier ∉ mounts.map Mount.identifier ∧
      Plugin.Manifest.isPathSegment plugin.mountPath = true ∧
      plugin.mountPath ≠ listingPath ∧ plugin.mountPath ∉ mounts.map Mount.mountPath ∧
      mountOne (groupChildren mounts) plugin =
        groupChildren (mounts ++ [.ofRegistration plugin]) := by
  unfold mountOne
  split
  · exact Or.inl rfl
  · next hid =>
    split
    · exact Or.inl rfl
    · next hsegment =>
      split
      · exact Or.inl rfl
      · next htaken =>
        rw [isRegistered_groupChildren] at hid
        rw [isTaken_groupChildren, not_or] at htaken
        refine Or.inr ⟨hid, by simpa using hsegment, Ne.symm htaken.1, htaken.2, ?_⟩
        simp [groupChildren]

theorem WellMounted.append {mounts : List Mount} (h : WellMounted mounts) {m : Mount}
    (hid : m.identifier ∉ mounts.map Mount.identifier)
    (hsegment : Plugin.Manifest.isPathSegment m.mountPath = true)
    (hlisting : m.mountPath ≠ listingPath) (hpath : m.mountPath ∉ mounts.map Mount.mountPath) :
    WellMounted (mounts ++ [m]) := by
  refine ⟨?_, ?_, ?_, ?_⟩
  · rw [List.map_append, List.map_singleton]
    exact h.identifiers.append (List.nodup_singleton _) (List.disjoint_singleton.mpr hid)
  · rw [List.map_append, List.map_singleton]
    exact h.paths.append (List.nodup_singleton _) (List.disjoint_singleton.mpr hpath)
  · exact List.forall_mem_append.mpr ⟨h.segment, List.forall_mem_singleton.mpr hsegment⟩
  · exact List.forall_mem_append.mpr ⟨h.ne_listing, List.forall_mem_singleton.mpr hlisting⟩

theorem exists_mountAll_eq {mounts : List Mount} (h : WellMounted mounts)
    (plugins : List Plugin.Registration) :
    ∃ kept : List Plugin.Registration, kept.Sublist plugins ∧
      WellMounted (mounts ++ kept.map .ofRegistration) ∧
      mountAll (groupChildren mounts) plugins =
        groupChildren (mounts ++ kept.map .ofRegistration) := by
  induction plugins generalizing mounts with
  | nil => exact ⟨[], .slnil, by simpa using h, by simp [mountAll]⟩
  | cons plugin rest ih =>
    rw [mountAll, List.foldl_cons, ← mountAll]
    rcases mountOne_cases mounts plugin with heq | ⟨hid, hsegment, hlisting, hpath, heq⟩
    · obtain ⟨kept, hsub, hkept, hall⟩ := ih h
      exact ⟨kept, hsub.cons plugin, hkept, by rw [heq, hall]⟩
    · obtain ⟨kept, hsub, hkept, hall⟩ :=
        ih (h.append (m := .ofRegistration plugin) hid hsegment hlisting hpath)
      rw [List.append_assoc] at hkept hall
      exact ⟨plugin :: kept, hsub.cons_cons plugin, hkept, by rw [heq, hall]; rfl⟩

theorem register_ofMounts {mounts mounts' : List Mount} {plugins : List Plugin.Registration}
    (h : mountAll (groupChildren mounts) plugins = groupChildren mounts') :
    (Table.ofMounts mounts).register plugins = .ofMounts mounts' := by
  simp [Table.register, Table.ofMounts, changeGroup, Entry.leaf, pluginsPath, h]

theorem exists_register_eq {mounts : List Mount} (h : WellMounted mounts)
    (plugins : List Plugin.Registration) :
    ∃ kept : List Plugin.Registration, kept.Sublist plugins ∧
      WellMounted (mounts ++ kept.map .ofRegistration) ∧
      (Table.ofMounts mounts).register plugins =
        .ofMounts (mounts ++ kept.map .ofRegistration) := by
  obtain ⟨kept, hsub, hkept, heq⟩ := exists_mountAll_eq h plugins
  exact ⟨kept, hsub, hkept, register_ofMounts heq⟩

def Mount.withComponent (identifier : String) (component : Plugin.Component) (mount : Mount) :
    Mount :=
  if mount.identifier = identifier then { mount with component } else mount

@[simp] theorem Mount.withComponent_identifier (identifier : String)
    (component : Plugin.Component) (mount : Mount) :
    (mount.withComponent identifier component).identifier = mount.identifier := by
  unfold Mount.withComponent
  split <;> rfl

@[simp] theorem Mount.withComponent_mountPath (identifier : String)
    (component : Plugin.Component) (mount : Mount) :
    (mount.withComponent identifier component).mountPath = mount.mountPath := by
  unfold Mount.withComponent
  split <;> rfl

theorem WellMounted.map {mounts : List Mount} (h : WellMounted mounts) {change : Mount → Mount}
    (hid : ∀ m, (change m).identifier = m.identifier)
    (hpath : ∀ m, (change m).mountPath = m.mountPath) : WellMounted (mounts.map change) := by
  refine ⟨?_, ?_, ?_, ?_⟩
  · simpa [Function.comp_def, hid] using h.identifiers
  · simpa [Function.comp_def, hpath] using h.paths
  · simpa [hpath] using h.segment
  · simpa [hpath] using h.ne_listing

theorem setComponent_ofMounts (mounts : List Mount) (identifier : String)
    (component : Plugin.Component) :
    (Table.ofMounts mounts).setComponent identifier component =
      .ofMounts (mounts.map (Mount.withComponent identifier component)) := by
  have hchild (m : Mount) :
      (if m.identifier = identifier then
        { Entry.ofMount m with target := .plugin { m with component } }
      else Entry.ofMount m) = Entry.ofMount (m.withComponent identifier component) := by
    unfold Mount.withComponent
    split <;> rfl
  simp only [Table.setComponent, Table.ofMounts, groupChildren, Entry.leaf, List.map_cons,
    List.map_nil, List.map_map, Function.comp_def, ← hchild]
  rfl

namespace Table

/-- A table that mounting plugins and loading their pages lead to. -/
inductive Reachable : Table → Prop
  | base : Reachable .base
  | register {table : Table} (h : Reachable table) (plugins : List Plugin.Registration) :
      Reachable (table.register plugins)
  | resolve {table : Table} (h : Reachable table) (mount : Mount) (env : Plugin.Environment) :
      Reachable (table.resolve mount env).2.1

theorem Reachable.exists_mounts {table : Table} (h : Reachable table) :
    ∃ mounts, WellMounted mounts ∧ table = .ofMounts mounts := by
  induction h with
  | base => exact ⟨[], wellMounted_nil, rfl⟩
  | register _ plugins ih =>
    obtain ⟨mounts, hmounts, rfl⟩ := ih
    obtain ⟨_, _, hkept, heq⟩ := exists_register_eq hmounts plugins
    exact ⟨_, hkept, heq⟩
  | resolve _ mount env ih =>
    obtain ⟨mounts, hmounts, rfl⟩ := ih
    refine ⟨_, ?_, setComponent_ofMounts mounts _ _⟩
    exact hmounts.map (Mount.withComponent_identifier _ _) (Mount.withComponent_mountPath _ _)

def mountRoute (mount : Mount) : String × Target := (pluginsPath ++ mount.mountPath, .plugin mount)

theorem flattenAll_ofMount (mounts : List Mount) :
    flattenAll pluginsPath (mounts.map .ofMount) = mounts.map mountRoute := by
  induction mounts with
  | nil => rfl
  | cons m rest ih =>
    rw [List.map_cons, flattenAll, ih, List.map_cons]
    rfl

theorem flatten_base : base.flatten =
    [("/", .home), ("/:app_name/:model_name", .resourceList),
      ("/:app_name/:model_name/:id", .resourceDetail),
      ("/plugins/installed-plugins", .installedPlugins)] := by
  rfl

theorem flatten_ofMounts (mounts : List Mount) :
    (ofMounts mounts).flatten = base.flatten ++ mounts.map mountRoute := by
  have hgroup : (ofMounts mounts).flatten =
      [("/", .home), ("/:app_name/:model_name", .resourceList),
        ("/:app_name/:model_name/:id", .resourceDetail),
        ("/plugins/installed-plugins", .installedPlugins)] ++
      (flattenAll pluginsPath (mounts.map .ofMount) ++ []) := by
    rfl
  rw [hgroup, flatten_base, List.append_nil, flattenAll_ofMount]

theorem mounts_ofMounts (mounts : List Mount) : (ofMounts mounts).mounts = mounts := by
  have hchildren : (ofMounts mounts).pluginChildren = groupChildren mounts := by
    simp [pluginChildren, ofMounts, Entry.leaf, pluginsPath]
  rw [Table.mounts, hchildren, groupChildren, List.filterMap_cons_none rfl, List.filterMap_map]
  exact List.filterMap_some

theorem mountRoute_path_injective {m m' : Mount} (h : (mountRoute m).1 = (mountRoute m').1) :
    m.mountPath = m'.mountPath := by
  have htext := congrArg String.toList h
  simp only [mountRoute, String.toList_append] at htext
  exact String.toList_inj.mp (List.append_cancel_left htext)

theorem mountRoute_path_not_mem_base {m : Mount} (h : m.mountPath ≠ listingPath) :
    (mountRoute m).1 ∉ base.flatten.map Prod.fst := by
  have hne {path : String} (hpath : ¬ pluginsPath.toList <+: path.toList) :
      (mountRoute m).1 ≠ path := by
    rintro rfl
    exact hpath ⟨m.mountPath.toList, String.toList_append.symm⟩
  have hlisting : (mountRoute m).1 ≠ "/plugins/installed-plugins" := by
    intro heq
    have htext := congrArg String.toList heq
    rw [mountRoute, String.toList_append] at htext
    exact h (String.toList_inj.mp
      (List.append_cancel_left (show pluginsPath.toList ++ _ = pluginsPath.toList ++ _ from htext)))
  rw [flatten_base]
  simp only [List.map_cons, List.map_nil, List.mem_cons, List.not_mem_nil, or_false, not_or]
  exact ⟨hne (by decide), hne (by decide), hne (by decide), hlisting⟩

theorem nodup_paths_ofMounts {mounts : List Mount} (h : WellMounted mounts) :
    ((ofMounts mounts).flatten.map Prod.fst).Nodup := by
  rw [flatten_ofMounts, List.map_append]
  refine List.Nodup.append ?_ ?_ ?_
  · rw [flatten_base]
    decide
  · rw [List.map_map]
    refine (List.Nodup.of_map _ h.paths).map_on ?_
    intro m hm m' hm' heq
    exact List.inj_on_of_nodup_map h.paths hm hm' (mountRoute_path_injective heq)
  · intro path hbase hmount
    obtain ⟨route, hroute, rfl⟩ := List.mem_map.mp hmount
    obtain ⟨m, hm, rfl⟩ := List.mem_map.mp hroute
    exact mountRoute_path_not_mem_base (h.ne_listing m hm) hbase

theorem filterMap_flatten_ofMounts (mounts : List Mount) :
    (ofMounts mounts).flatten.filterMap (fun (path, target) => target.mount?.map (path, ·)) =
      mounts.map fun m => (pluginsPath ++ m.mountPath, m) := by
  rw [flatten_ofMounts, flatten_base, List.filterMap_append, List.filterMap_map]
  exact congrFun List.filterMap_eq_map mounts

/-- In a reachable table no two plugins share an identifier and no two routes a path, every plugin
is mounted at a path segment that is no step and not that of the listing, the routes of the base
table come first, and the plugins are the plugin routes in their order. -/
theorem Reachable.routes_distinct {table : Table} (h : Reachable table) :
    (table.mounts.map Mount.identifier).Nodup ∧
    (table.flatten.map Prod.fst).Nodup ∧
    (∀ m ∈ table.mounts, m.mountPath ≠ "" ∧
      (∀ c ∈ m.mountPath.toList, c.isAlphanum = true ∨ c = '-' ∨ c = '_' ∨ c = '.') ∧
      m.mountPath ∉ [".", "..", "installed-plugins"]) ∧
    (∃ rest, table.flatten = Table.base.flatten ++ rest) ∧
    table.flatten.filterMap (fun (path, target) => target.mount?.map (path, ·)) =
      table.mounts.map fun m => ("/plugins/" ++ m.mountPath, m) := by
  obtain ⟨mounts, hmounts, rfl⟩ := h.exists_mounts
  rw [mounts_ofMounts]
  refine ⟨hmounts.identifiers, nodup_paths_ofMounts hmounts, ?_, ⟨_, flatten_ofMounts mounts⟩,
    filterMap_flatten_ofMounts mounts⟩
  intro m hm
  obtain ⟨hempty, hchars, hstay, hup⟩ := isPathSegment_iff.mp (hmounts.segment m hm)
  have hlisting : m.mountPath ≠ "installed-plugins" := hmounts.ne_listing m hm
  exact ⟨hempty, hchars, by simp [hstay, hup, hlisting]⟩

/-- Plugins of which only the second and the last can be mounted. -/
def conflictingPlugins : List Plugin.Registration :=
  [⟨"listing", "installed-plugins", "Listing", .file "a"⟩, ⟨"one", "shared", "One", .file "b"⟩,
    ⟨"two", "shared", "Two", .file "c"⟩, ⟨"three", "a/b", "Three", .file "d"⟩,
    ⟨"one", "other", "One", .file "e"⟩, ⟨"four", "..x", "Four", .file "f"⟩]

theorem conflictingPlugins_routes_distinct :
    ((Table.base.register conflictingPlugins).register conflictingPlugins).Reachable ∧
    ((Table.base.register conflictingPlugins).register conflictingPlugins).mounts.map
      Mount.mountPath = ["shared", "..x"] ∧
    (((Table.base.register conflictingPlugins).register conflictingPlugins).flatten.map
      Prod.fst).Nodup := by
  have hreach := (Reachable.base.register conflictingPlugins).register conflictingPlugins
  exact ⟨hreach, by decide, hreach.routes_distinct.2.1⟩

end Table

end NetworkPortal.Route
