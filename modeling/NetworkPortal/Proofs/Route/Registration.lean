import NetworkPortal.Proofs.Route.Reachable

/-! # Registering plugins again

A plugin is turned away if its identifier is registered, if its mount path is no path segment, or if
the path is taken. Mounting only adds to the children of the group, so whoever is turned away once is
turned away from then on, and a mounted plugin is turned away by its own identifier. So a list of
plugins that have all been registered before changes nothing, in any order and with repetitions.
-/
namespace NetworkPortal.Route

variable {children children' : List Entry} {plugin : Plugin.Registration}
  {plugins again : List Plugin.Registration}

/-- Something speaks against mounting a plugin beside `children`. -/
def TurnedAway (children : List Entry) (plugin : Plugin.Registration) : Prop :=
  isRegistered children plugin.identifier = true ∨
    Plugin.Manifest.isPathSegment plugin.mountPath = false ∨
    isTaken children plugin.mountPath = true

theorem mountOne_of_turnedAway (h : TurnedAway children plugin) :
    mountOne children plugin = children := by
  unfold mountOne
  rcases h with hregistered | hsegment | htaken
  · rw [if_pos hregistered]
  · simp only [hsegment, Bool.not_false, if_true, ite_self]
  · simp only [htaken, if_true, ite_self]

theorem mountOne_of_not_turnedAway (h : ¬ TurnedAway children plugin) :
    mountOne children plugin = children ++ [.ofMount (.ofRegistration plugin)] := by
  obtain ⟨hregistered, hrest⟩ := not_or.mp h
  obtain ⟨hsegment, htaken⟩ := not_or.mp hrest
  unfold mountOne
  rw [if_neg hregistered, if_neg (by simpa using hsegment), if_neg htaken]

theorem TurnedAway.mono (h : TurnedAway children plugin) (hle : children <+: children') :
    TurnedAway children' plugin := by
  obtain ⟨more, rfl⟩ := hle
  rcases h with hregistered | hsegment | htaken
  · left
    rw [isRegistered, List.any_append, Bool.or_eq_true]
    exact Or.inl hregistered
  · exact Or.inr (Or.inl hsegment)
  · right
    right
    rw [isTaken, List.any_append, Bool.or_eq_true]
    exact Or.inl htaken

theorem prefix_mountOne (children : List Entry) (plugin : Plugin.Registration) :
    children <+: mountOne children plugin := by
  by_cases h : TurnedAway children plugin
  · exact ⟨[], by rw [mountOne_of_turnedAway h, List.append_nil]⟩
  · rw [mountOne_of_not_turnedAway h]
    exact List.prefix_append _ _

theorem prefix_mountAll (children : List Entry) (plugins : List Plugin.Registration) :
    children <+: mountAll children plugins := by
  induction plugins generalizing children with
  | nil => exact List.prefix_rfl
  | cons plugin rest ih => exact (prefix_mountOne children plugin).trans (ih _)

/-- Once it has been tried, a plugin is turned away: if not before, then by its own mount. -/
theorem turnedAway_mountOne (children : List Entry) (plugin : Plugin.Registration) :
    TurnedAway (mountOne children plugin) plugin := by
  by_cases h : TurnedAway children plugin
  · rwa [mountOne_of_turnedAway h]
  · rw [mountOne_of_not_turnedAway h]
    left
    simp [isRegistered, Entry.ofMount, Entry.leaf, Mount.ofRegistration]

theorem turnedAway_mountAll (children : List Entry) (h : plugin ∈ plugins) :
    TurnedAway (mountAll children plugins) plugin := by
  induction plugins generalizing children with
  | nil => exact absurd h List.not_mem_nil
  | cons first rest ih =>
    rw [mountAll, List.foldl_cons, ← mountAll]
    rcases List.mem_cons.mp h with rfl | hrest
    · exact (turnedAway_mountOne children plugin).mono (prefix_mountAll _ rest)
    · exact ih _ hrest

theorem mountAll_of_turnedAway (h : ∀ plugin ∈ plugins, TurnedAway children plugin) :
    mountAll children plugins = children := by
  induction plugins with
  | nil => rfl
  | cons first rest ih =>
    obtain ⟨hfirst, hrest⟩ := List.forall_mem_cons.mp h
    rw [mountAll, List.foldl_cons, ← mountAll, mountOne_of_turnedAway hfirst, ih hrest]

theorem mountAll_mountAll (children : List Entry) (h : ∀ plugin ∈ again, plugin ∈ plugins) :
    mountAll (mountAll children plugins) again = mountAll children plugins :=
  mountAll_of_turnedAway fun plugin hplugin => turnedAway_mountAll children (h plugin hplugin)

theorem changeGroup_changeGroup (change change' : List Entry → List Entry)
    (entries : List Entry) :
    changeGroup change (changeGroup change' entries) =
      changeGroup (fun children => change (change' children)) entries := by
  induction entries with
  | nil => simp [changeGroup]
  | cons entry rest ih =>
    by_cases h : entry.path = pluginsPath
    · simp [changeGroup, h]
    · simp [changeGroup, h, ih]

namespace Table

theorem register_register (table : Table) (h : ∀ plugin ∈ again, plugin ∈ plugins) :
    (table.register plugins).register again = table.register plugins := by
  simp only [register, changeGroup_changeGroup, mountAll_mountAll _ h]

/-- In a group that only plugins were mounted in, what speaks against one more plugin with a path of
its own is another plugin. -/
theorem exists_mount_of_turnedAway {mounts : List Mount}
    (h : TurnedAway (groupChildren mounts) plugin)
    (hsegment : Plugin.Manifest.isPathSegment plugin.mountPath = true)
    (hlisting : plugin.mountPath ≠ listingPath) :
    ∃ m ∈ mounts, m.identifier = plugin.identifier ∨ m.mountPath = plugin.mountPath := by
  rcases h with hregistered | hnone | htaken
  · rw [isRegistered_groupChildren] at hregistered
    obtain ⟨m, hm, hid⟩ := List.mem_map.mp hregistered
    exact ⟨m, hm, Or.inl hid⟩
  · rw [hsegment] at hnone
    cases hnone
  · rw [isTaken_groupChildren] at htaken
    rcases htaken with heq | hmem
    · exact absurd heq.symm hlisting
    · obtain ⟨m, hm, hpath⟩ := List.mem_map.mp hmem
      exact ⟨m, hm, Or.inr hpath⟩

/-- Registering plugins keeps the mounts of a table with their pages and adds some of the plugins
after them, in their order and with no page loaded. Who is not added shares an identifier or a path
with a mount, unless the path is no segment or that of the listing. Registering any of the plugins
again changes nothing. -/
theorem Reachable.registering_again_changes_nothing {table : Table} (h : table.Reachable)
    (plugins again : List Plugin.Registration) (hagain : ∀ plugin ∈ again, plugin ∈ plugins) :
    (table.register plugins).register again = table.register plugins ∧
    (∃ kept : List Plugin.Registration, kept.Sublist plugins ∧
      (table.register plugins).mounts = table.mounts ++ kept.map .ofRegistration ∧
      (table.register plugins).flatten =
        table.flatten ++ (kept.map Mount.ofRegistration).map mountRoute ∧
      ∀ m ∈ kept.map Mount.ofRegistration, m.component.loaded = none) ∧
    ∀ plugin ∈ plugins, Plugin.Manifest.isPathSegment plugin.mountPath = true →
      plugin.mountPath ≠ "installed-plugins" →
      ∃ m ∈ (table.register plugins).mounts,
        m.identifier = plugin.identifier ∨ m.mountPath = plugin.mountPath := by
  refine ⟨register_register table hagain, ?_⟩
  obtain ⟨mounts, hmounts, rfl⟩ := h.exists_mounts
  obtain ⟨kept, hsub, hkept, hall⟩ := exists_mountAll_eq hmounts plugins
  rw [register_ofMounts hall, mounts_ofMounts, mounts_ofMounts]
  refine ⟨⟨kept, hsub, rfl, ?_, ?_⟩, ?_⟩
  · rw [flatten_ofMounts, flatten_ofMounts, List.map_append, List.append_assoc]
  · intro m hm
    obtain ⟨plugin, _, rfl⟩ := List.mem_map.mp hm
    rfl
  · intro plugin hplugin hsegment hlisting
    have haway := turnedAway_mountAll (groupChildren mounts) hplugin
    rw [hall] at haway
    exact exists_mount_of_turnedAway haway hsegment hlisting

/-- A plugin with a page to give, at a path that other plugins ask for too. -/
def sharedPlugin : Plugin.Registration :=
  ⟨"one", "shared", "One", .supplied 0 fun _ => .ok ⟨"<p>one</p>"⟩⟩

/-- The base table with that plugin, its page loaded. -/
def sharedTable : Table :=
  ((base.register [sharedPlugin]).resolve (.ofRegistration sharedPlugin) ⟨{}, fun _ => 0⟩).2.1

theorem sharedTable_registering_again :
    sharedTable.Reachable ∧
    (∀ plugin ∈ conflictingPlugins.reverse ++ conflictingPlugins, plugin ∈ conflictingPlugins) ∧
    (sharedTable.register conflictingPlugins).register
      (conflictingPlugins.reverse ++ conflictingPlugins) =
        sharedTable.register conflictingPlugins ∧
    (sharedTable.register conflictingPlugins).mounts.map
      (fun m => (m.title, m.mountPath, m.component.loaded)) =
        [("One", "shared", some ⟨"<p>one</p>"⟩), ("Four", "..x", none)] ∧
    ∃ m ∈ (sharedTable.register conflictingPlugins).mounts,
      m.identifier = "two" ∨ m.mountPath = "shared" := by
  have htable : sharedTable.Reachable := (Reachable.base.register _).resolve _ _
  have hagain : ∀ plugin ∈ conflictingPlugins.reverse ++ conflictingPlugins,
      plugin ∈ conflictingPlugins := by
    intro plugin hplugin
    exact (List.mem_append.mp hplugin).elim List.mem_reverse.mp id
  obtain ⟨hsame, -, hshare⟩ := htable.registering_again_changes_nothing _ _ hagain
  refine ⟨htable, hagain, hsame, by decide, ?_⟩
  exact hshare ⟨"two", "shared", "Two", .file "c"⟩ (by simp [conflictingPlugins]) (by decide)
    (by decide)

end Table

end NetworkPortal.Route
