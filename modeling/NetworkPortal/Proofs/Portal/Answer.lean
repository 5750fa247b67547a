import NetworkPortal.Portal.Basic
import NetworkPortal.Proofs.Backend.Fetch

/-! # Answers by method

A request that reads is answered by what is done for its path. Any other request does nothing: how
it is answered depends on its method, and on whether anything is found for its path.
-/
namespace NetworkPortal.Portal

variable {portal portal' : Portal} {now : Time.Instant} {request : Http.Request}
  {backend : Backend} {action : Action} {parameters : List (String × String)}

theorem method_ne_options {method : String} (h : isRead method = true) : method ≠ "OPTIONS" := by
  rintro rfl
  exact absurd h (by decide)

theorem isRead_of_get {method : String} (h : method = "GET") : isRead method = true := by
  rw [h]
  decide

theorem asked_answer_of_none (now : Time.Instant) (hread : isRead request.method = true)
    (hroute : dispatch? portal.table request.path = none) :
    (portal.answer now request).asked backend = [] := by
  simp only [answer, if_neg (method_ne_options hread), hroute]
  rfl

theorem asked_answer (now : Time.Instant) (hread : isRead request.method = true)
    (hroute : dispatch? portal.table request.path = some (action, parameters)) :
    (portal.answer now request).asked backend = (portal.act now action parameters).asked backend := by
  simp only [answer, if_neg (method_ne_options hread), hroute, if_pos hread, Fetch.asked_bind,
    Fetch.asked_pure, List.append_nil]

theorem value_answer_of_none (hread : isRead request.method = true)
    (hroute : dispatch? portal.table request.path = none) :
    (portal.answer now request).value backend =
      (.ofContent 404 none (portal.origins.headers request) true, portal) := by
  simp only [answer, if_neg (method_ne_options hread), hroute, Fetch.value_pure]

theorem value_answer (hread : isRead request.method = true)
    (hroute : dispatch? portal.table request.path = some (action, parameters)) :
    (portal.answer now request).value backend =
      let done := (portal.act now action parameters).value backend
      (.ofContent done.1.1 (some done.1.2) (portal.origins.headers request)
        (request.method == "GET"), done.2) := by
  simp only [answer, if_neg (method_ne_options hread), hroute, if_pos hread, Fetch.value_bind,
    Fetch.value_pure]

theorem value_answer_get (hget : request.method = "GET")
    (hroute : dispatch? portal.table request.path = some (action, parameters)) :
    (portal.answer now request).value backend =
      let done := (portal.act now action parameters).value backend
      (.ofContent done.1.1 (some done.1.2) (portal.origins.headers request) true, done.2) := by
  have hbody : (request.method == "GET") = true := beq_iff_eq.mpr hget
  rw [value_answer (isRead_of_get hget) hroute, hbody]

theorem value_answer_congr_of_not_isRead (hread : isRead request.method = false)
    (horigins : portal.origins = portal'.origins)
    (hfound : (dispatch? portal.table request.path).isSome =
      (dispatch? portal'.table request.path).isSome) :
    (portal.answer now request).value backend =
      (((portal'.answer now request).value backend).1, portal) := by
  have hact : ¬ isRead request.method = true := Bool.eq_false_iff.mp hread
  by_cases hoptions : request.method = "OPTIONS"
  · simp only [answer, if_pos hoptions, Fetch.value_pure, hfound, horigins]
  · cases hroute : dispatch? portal.table request.path with
    | none =>
      rw [hroute, Option.isSome_none, eq_comm, Option.isSome_eq_false_iff,
        Option.isNone_iff_eq_none] at hfound
      simp only [answer, if_neg hoptions, hroute, hfound, Fetch.value_pure, horigins]
    | some found =>
      rw [hroute, Option.isSome_some, eq_comm, Option.isSome_iff_exists] at hfound
      obtain ⟨found', hroute'⟩ := hfound
      simp only [answer, if_neg hoptions, hroute, hroute', if_neg hact, Fetch.value_pure, horigins]

/-- An action other than a plugin page changes nothing, and depends on the settings and on the
listing of the plugins. -/
theorem value_act_congr (haction : ∀ mount, action ≠ .plugin mount)
    (hsettings : portal.settings = portal'.settings)
    (hlisting : Page.pluginsBody portal.table.mounts = Page.pluginsBody portal'.table.mounts) :
    (portal.act now action parameters).value backend =
      (((portal'.act now action parameters).value backend).1, portal) := by
  cases action with
  | plugin mount => exact absurd rfl (haction mount)
  | health => rfl
  | home => simp only [act, Fetch.value_bind, Fetch.value_pure, hsettings]
  | installedPlugins =>
    simp only [act, View.installedPlugins, Fetch.value_bind, Fetch.value_pure, hsettings, hlisting]
  | resourceList =>
    simp only [act, hsettings]
    split <;> rfl
  | resourceDetail =>
    simp only [act, hsettings]
    split <;> rfl

end NetworkPortal.Portal
