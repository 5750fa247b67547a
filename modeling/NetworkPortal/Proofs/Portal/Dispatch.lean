import NetworkPortal.Portal.Basic
import NetworkPortal.Proofs.Route.Reachable
import NetworkPortal.Proofs.Route.Router

/-! # The router of a portal

A reachable route table makes a router, with a row for each view and one for each mounted plugin.
What is found for a path is read off these rows: the pages that stand at one place have no
parameters, a list has two and a resource has three.
-/
namespace NetworkPortal.Portal

open Route (Mount WellMounted Router Pattern Segment Table pathOf segments? decodeParameters)

def baseRows : Router Action :=
  [([.literal "health"], .health), ([.literal ""], .home),
    ([.parameter "app_name", .parameter "model_name"], .resourceList),
    ([.parameter "app_name", .parameter "model_name", .parameter "id"], .resourceDetail),
    ([.literal "plugins", .literal "installed-plugins"], .installedPlugins)]

def mountRow (mount : Mount) : Pattern × Action :=
  ([.literal "plugins", .literal mount.mountPath], .plugin mount)

def rows (mounts : List Mount) : Router Action := baseRows ++ mounts.map mountRow

theorem routes_ofMounts (mounts : List Mount) :
    routes (.ofMounts mounts) =
      routes .base ++ mounts.map fun m => (Route.pluginsPath ++ m.mountPath, .plugin m) := by
  rw [routes, Table.flatten_ofMounts, List.filterMap_append, List.filterMap_map, routes,
    List.cons_append]
  exact congrArg (_ :: _ ++ ·) (congrFun List.filterMap_eq_map mounts)

theorem literal_of_isPathSegment {text : String}
    (h : Plugin.Manifest.isPathSegment text = true) :
    '/' ∉ text.toList ∧ Segment.ofText? text = some (.literal text) := by
  have hchars := (Route.isPathSegment_iff.mp h).2.1
  have hne {c : Char} (hc : c.isAlphanum = false ∧ c ≠ '-' ∧ c ≠ '_' ∧ c ≠ '.') :
      c ∉ text.toList := by
    intro hmem
    rcases hchars c hmem with hletter | hmark
    · exact absurd hletter (by simp [hc.1])
    · exact hmark.elim hc.2.1 (Or.elim · hc.2.2.1 hc.2.2.2)
  refine ⟨hne (by decide), Segment.ofText?_eq_literal fun c hc => ⟨?_, ?_⟩⟩
  · rintro rfl
    exact hne (by decide) hc
  · rintro rfl
    exact hne (by decide) hc

theorem ofPath?_mount {text : String} (h : Plugin.Manifest.isPathSegment text = true) :
    Pattern.ofPath? (Route.pluginsPath ++ text) = some [.literal "plugins", .literal text] := by
  obtain ⟨hslash, hliteral⟩ := literal_of_isPathSegment h
  have hpath : Route.pluginsPath ++ text = pathOf ["plugins", text] := by
    apply String.toList_inj.mp
    simp [Route.pluginsPath, pathOf]
  have hsegments : segments? (pathOf ["plugins", text]) = some ["plugins", text] :=
    Route.segments?_pathOf (by simp) (by simp [hslash])
  have hplugins : Segment.ofText? "plugins" = some (.literal "plugins") := rfl
  rw [Pattern.ofPath?, hpath, hsegments]
  simp [hplugins, hliteral]

theorem overlaps_mountRow (m m' : Mount) :
    (mountRow m).1.overlaps (mountRow m').1 = decide (m.mountPath = m'.mountPath) := by
  simp [mountRow, Pattern.overlaps, beq_eq_decide]

theorem pairwise_rows {mounts : List Mount} (h : WellMounted mounts) :
    (rows mounts).Pairwise fun earlier later => later.1.overlaps earlier.1 = false := by
  refine List.pairwise_append.mpr ⟨by decide, ?_, ?_⟩
  · refine List.pairwise_map.mpr ((List.pairwise_map.mp h.paths).imp ?_)
    intro m m' hne
    rw [overlaps_mountRow]
    exact decide_eq_false (Ne.symm hne)
  · intro row hrow later hlater
    obtain ⟨m, hm, rfl⟩ := List.mem_map.mp hlater
    have hlisting : m.mountPath ≠ "installed-plugins" := h.ne_listing m hm
    simp only [baseRows, List.mem_cons, List.not_mem_nil, or_false] at hrow
    rcases hrow with rfl | rfl | rfl | rfl | rfl
    all_goals simp [mountRow, Pattern.overlaps, hlisting]

theorem build_routes_ofMounts {mounts : List Mount} (h : WellMounted mounts) :
    Router.build (routes (.ofMounts mounts)) = .ok (rows mounts) := by
  refine Router.build_eq_ok ?_ (pairwise_rows h)
  rw [routes_ofMounts, rows, List.map_append, List.map_append, List.map_map, List.map_map]
  congr 1
  refine List.map_congr_left fun m hm => ?_
  simp only [Function.comp_apply, ofPath?_mount (h.segment m hm), mountRow]

theorem dispatch?_ofMounts {mounts : List Mount} (h : WellMounted mounts) (path : String) :
    dispatch? (.ofMounts mounts) path = (rows mounts).dispatch? path := by
  simp only [dispatch?, build_routes_ofMounts h]

/-- What can be found for the segments of a path, with the raw values of parameters. -/
inductive Found (mounts : List Mount) : List String → Action → List (String × String) → Prop
  | health : Found mounts ["health"] .health []
  | home : Found mounts [""] .home []
  | installedPlugins : Found mounts ["plugins", "installed-plugins"] .installedPlugins []
  | plugin {m : Mount} (hm : m ∈ mounts) : Found mounts ["plugins", m.mountPath] (.plugin m) []
  | resourceList {app model : String} (hmodel : model ≠ "") :
      Found mounts [app, model] .resourceList [("app_name", app), ("model_name", model)]
  | resourceDetail {app model id : String} (hid : id ≠ "") :
      Found mounts [app, model, id] .resourceDetail
        [("app_name", app), ("model_name", model), ("id", id)]

theorem found_of_mem_rows {mounts : List Mount} {segments : List String} {pattern : Pattern}
    {action : Action} {values : List (String × String)} (hrow : (pattern, action) ∈ rows mounts)
    (hmatch : pattern.match? segments = some values) : Found mounts segments action values := by
  have hliteral (texts : List String) (hpattern : pattern = texts.map .literal) :
      segments = texts ∧ values = [] :=
    (Pattern.match?_literals_iff texts).mp (hpattern ▸ hmatch)
  have hparameters (name : String) (names : List String)
      (hpattern : pattern = (name :: names).map .parameter) :=
    (Pattern.match?_parameters_iff name names).mp (hpattern ▸ hmatch)
  rcases List.mem_append.mp hrow with hbase | hmount
  · simp only [baseRows, List.mem_cons, List.not_mem_nil, or_false, Prod.mk.injEq] at hbase
    rcases hbase with ⟨hp, rfl⟩ | ⟨hp, rfl⟩ | ⟨hp, rfl⟩ | ⟨hp, rfl⟩ | ⟨hp, rfl⟩
    · obtain ⟨rfl, rfl⟩ := hliteral ["health"] hp
      exact .health
    · obtain ⟨rfl, rfl⟩ := hliteral [""] hp
      exact .home
    · obtain ⟨hlength, hlast, rfl⟩ := hparameters "app_name" ["model_name"] hp
      match segments, hlength, hlast with
      | [app, model], _, hlast => exact .resourceList (by simpa using hlast)
    · obtain ⟨hlength, hlast, rfl⟩ := hparameters "app_name" ["model_name", "id"] hp
      match segments, hlength, hlast with
      | [app, model, id], _, hlast => exact .resourceDetail (by simpa using hlast)
    · obtain ⟨rfl, rfl⟩ := hliteral ["plugins", "installed-plugins"] hp
      exact .installedPlugins
  · obtain ⟨m, hm, heq⟩ := List.mem_map.mp hmount
    obtain ⟨hp, rfl⟩ := Prod.mk.inj heq
    obtain ⟨rfl, rfl⟩ := hliteral ["plugins", m.mountPath] hp.symm
    exact .plugin hm

theorem found_of_dispatch? {table : Table} (h : table.Reachable) {path : String}
    {action : Action} {parameters : List (String × String)}
    (hroute : dispatch? table path = some (action, parameters)) :
    ∃ segments, segments? path = some segments ∧
      Found table.mounts segments action parameters := by
  obtain ⟨mounts, hmounts, rfl⟩ := h.exists_mounts
  rw [dispatch?_ofMounts hmounts] at hroute
  obtain ⟨segments, pattern, hsegments, hrow, hmatch⟩ := Router.exists_row_of_dispatch? hroute
  rw [Table.mounts_ofMounts]
  exact ⟨segments, hsegments, found_of_mem_rows hrow hmatch⟩

/-- Three segments of which the last is not empty lead to a resource: no plugin and no page has a
path as long. -/
theorem dispatch?_resourceDetail {table : Table} (h : table.Reachable) {path : String}
    {app model id : String} (hsegments : segments? path = some [app, model, id])
    (hid : id ≠ "") :
    dispatch? table path =
      some (.resourceDetail, [("app_name", app), ("model_name", model), ("id", id)]) := by
  obtain ⟨mounts, hmounts, rfl⟩ := h.exists_mounts
  have hmount (m : Mount) : (mountRow m).1.match? [app, model, id] = none :=
    Pattern.match?_eq_none_of_length (by simp [mountRow])
  have hmounts' : Router.matching (mounts.map mountRow) [app, model, id] = [] := by
    refine List.filterMap_eq_nil_iff.mpr fun row hrow => ?_
    obtain ⟨m, _, rfl⟩ := List.mem_map.mp hrow
    simp [hmount]
  have hbase : Router.matching baseRows [app, model, id] =
      [([.parameter "app_name", .parameter "model_name", .parameter "id"], .resourceDetail,
        [("app_name", app), ("model_name", model), ("id", id)])] := by
    have hdetail : Pattern.match?
        [.parameter "app_name", .parameter "model_name", .parameter "id"] [app, model, id] =
        some [("app_name", app), ("model_name", model), ("id", id)] :=
      (Pattern.match?_parameters_iff "app_name" ["model_name", "id"]).mpr
        ⟨rfl, by simpa using hid, rfl⟩
    simp [Router.matching, baseRows, Pattern.match?_eq_none_of_length, hdetail]
  have hmatching := Router.matching_append baseRows (mounts.map mountRow) [app, model, id]
  rw [hbase, hmounts', List.append_nil] at hmatching
  rw [dispatch?_ofMounts hmounts]
  exact Router.dispatch?_of_matching_eq hsegments hmatching

end NetworkPortal.Portal
