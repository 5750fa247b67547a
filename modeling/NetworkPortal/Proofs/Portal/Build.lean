import NetworkPortal.Proofs.Portal.Dispatch

/-! # When a portal can be built

The routes of a portal never stand in the way, whatever plugins are mounted: only a wildcard among
the listed origins does. Checking the settings does not look at the origins.
-/
namespace NetworkPortal

theorem Http.OriginPolicy.ofOrigins?_eq_none_iff (origins : List String) :
    ofOrigins? origins = none ↔ "*" ∈ origins := by
  have husable : "*" ∈ origins.filter isHeaderValue ↔ "*" ∈ origins := by
    rw [List.mem_filter]
    exact and_iff_left (by decide)
  cases origins with
  | nil => simp [ofOrigins?]
  | cons origin rest =>
    rw [ofOrigins?, List.isEmpty_cons, if_neg Bool.false_ne_true]
    simp only [husable, ite_eq_left_iff, reduceCtorEq, imp_false, not_not]

namespace Portal

open Route (Table)

theorem exists_router (plugins : List Plugin.Registration) :
    ∃ router, Route.Router.build (routes (Table.base.register plugins)) = .ok router := by
  obtain ⟨mounts, hmounts, htable⟩ := (Table.Reachable.base.register plugins).exists_mounts
  rw [htable]
  exact ⟨rows mounts, build_routes_ofMounts hmounts⟩

variable {settings : Settings}

theorem build_of_mem (plugins : List Plugin.Registration) (environment : Plugin.Environment)
    (h : "*" ∈ settings.server.origins) :
    build settings plugins environment = .error .wildcardOrigin := by
  obtain ⟨router, hrouter⟩ := exists_router plugins
  have horigins := (Http.OriginPolicy.ofOrigins?_eq_none_iff _).mpr h
  simp only [build, hrouter, horigins]

theorem build_of_not_mem (plugins : List Plugin.Registration) (environment : Plugin.Environment)
    (h : "*" ∉ settings.server.origins) :
    ∃ origins, build settings plugins environment =
      .ok ⟨settings, origins, Table.base.register plugins, environment⟩ := by
  obtain ⟨router, hrouter⟩ := exists_router plugins
  have hne := (Http.OriginPolicy.ofOrigins?_eq_none_iff _).not.mpr h
  obtain ⟨origins, horigins⟩ := Option.ne_none_iff_exists'.mp hne
  exact ⟨origins, by simp only [build, hrouter, horigins]⟩

/-- A portal is built, with its settings and all plugins registered, exactly if no listed origin is
the wildcard, and the wildcard is the only thing that a failure can be about. -/
theorem build_fails_only_on_wildcard (settings : Settings) (plugins : List Plugin.Registration)
    (environment : Plugin.Environment) :
    ((∃ origins, build settings plugins environment =
        .ok ⟨settings, origins, Table.base.register plugins, environment⟩) ↔
      "*" ∉ settings.server.origins) ∧
    ∀ fault, build settings plugins environment = .error fault ↔
      fault = .wildcardOrigin ∧ "*" ∈ settings.server.origins := by
  by_cases h : "*" ∈ settings.server.origins
  · have hbuild := build_of_mem plugins environment h
    refine ⟨iff_of_false ?_ (not_not_intro h), fun fault => ?_⟩
    · rintro ⟨origins, hok⟩
      rw [hbuild] at hok
      cases hok
    · rw [hbuild, Except.error.injEq, eq_comm]
      exact (and_iff_left h).symm
  · have hbuild := build_of_not_mem plugins environment h
    refine ⟨iff_of_true hbuild h, fun fault => iff_of_false ?_ (h ·.2)⟩
    obtain ⟨origins, hok⟩ := hbuild
    rw [hok]
    exact nofun

def wildcardSettings : Settings :=
  { Settings.defaults "plugins" with server := { origins := ["*"] } }

theorem wildcardSettings_pass_and_fail :
    wildcardSettings.validate = .ok () ∧
      build wildcardSettings [] ⟨{}, fun _ => 0⟩ = .error .wildcardOrigin :=
  ⟨by decide, build_of_mem [] _ (by decide)⟩

end Portal

end NetworkPortal
