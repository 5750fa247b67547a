import NetworkPortal.Plugin.Component

/-! # What resolving a component does

A component with a page gives it and runs nothing. One without a page runs its loader once, and
keeps the page if the loader gives one. No other loader runs.
-/
namespace NetworkPortal.Plugin

variable {loader : Loader} {component : Component} {env : Environment} {markup : Markup}
  {fault : PluginFault} {key : Loader.Key}

namespace Loader

theorem calls_run : (loader.run env).2.calls loader.key = env.calls loader.key + 1 :=
  if_pos rfl

theorem calls_run_of_ne (h : key ≠ loader.key) :
    (loader.run env).2.calls key = env.calls key :=
  if_neg h

end Loader

namespace Component

theorem resolve_of_loaded (env : Environment) (h : component.loaded = some markup) :
    component.resolve env = (.ok markup, component, env) := by
  simp only [resolve, h]

theorem resolve_of_ok (env : Environment) (h : component.loaded = none)
    (hok : component.loader.outcome env.storage (env.calls component.loader.key) = .ok markup) :
    component.resolve env =
      (.ok markup, { component with loaded := some markup }, (component.loader.run env).2) := by
  simp only [resolve, h, Loader.run, hok]

theorem resolve_of_error (env : Environment) (h : component.loaded = none)
    (herror : component.loader.outcome env.storage (env.calls component.loader.key) =
      .error fault) :
    component.resolve env = (.error fault, component, (component.loader.run env).2) := by
  simp only [resolve, h, Loader.run, herror]

theorem resolve_cases (component : Component) (env : Environment) :
    (∃ markup, component.loaded = some markup) ∨
    component.loaded = none ∧
      ((∃ markup,
        component.loader.outcome env.storage (env.calls component.loader.key) = .ok markup) ∨
      ∃ fault,
        component.loader.outcome env.storage (env.calls component.loader.key) = .error fault) := by
  cases hloaded : component.loaded with
  | some markup => exact Or.inl ⟨markup, rfl⟩
  | none =>
    refine Or.inr ⟨rfl, ?_⟩
    cases component.loader.outcome env.storage (env.calls component.loader.key) with
    | ok markup => exact Or.inl ⟨markup, rfl⟩
    | error fault => exact Or.inr ⟨fault, rfl⟩

theorem loader_resolve (component : Component) (env : Environment) :
    (component.resolve env).2.1.loader = component.loader := by
  rcases resolve_cases component env with ⟨markup, h⟩ | ⟨h, ⟨markup, hok⟩ | ⟨fault, herror⟩⟩
  · rw [resolve_of_loaded env h]
  · rw [resolve_of_ok env h hok]
  · rw [resolve_of_error env h herror]

theorem calls_resolve_of_ne (component : Component) (env : Environment)
    (h : key ≠ component.loader.key) :
    (component.resolve env).2.2.calls key = env.calls key := by
  rcases resolve_cases component env with
    ⟨markup, hloaded⟩ | ⟨hloaded, ⟨markup, hok⟩ | ⟨fault, herror⟩⟩
  · rw [resolve_of_loaded env hloaded]
  · rw [resolve_of_ok env hloaded hok]
    exact Loader.calls_run_of_ne h
  · rw [resolve_of_error env hloaded herror]
    exact Loader.calls_run_of_ne h

end Component

end NetworkPortal.Plugin
