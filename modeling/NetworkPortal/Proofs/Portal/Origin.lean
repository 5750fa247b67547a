import NetworkPortal.Proofs.Http.Origin
import NetworkPortal.Proofs.Portal.History

/-! # Allowed origins of a portal

A visit leaves the policy about origins as it is, and every response goes out under it, whatever is
done for the request. A portal that is built so allows what its listed origins call for, as long as
it runs.
-/
namespace NetworkPortal

open Http (OriginPolicy Response headerValues)

namespace Portal

variable {portal : Portal} {now : Time.Instant} {request : Http.Request} {backend : Backend}
  {action : Action} {parameters : List (String × String)}

theorem origins_act :
    ((portal.act now action parameters).value backend).2.origins = portal.origins := by
  cases action with
  | resourceList | resourceDetail =>
    unfold act
    dsimp only
    split <;> rfl
  | _ => rfl

/-- An answer allows what the policy of the portal allows, and leaves the policy as it is. -/
structure UnderPolicy (portal : Portal) (request : Http.Request) (answer : Response × Portal) :
    Prop where
  allowed : answer.1.allowed = (portal.origins.allowed? request).toList
  origins : answer.2.origins = portal.origins

theorem underPolicy_answer (portal : Portal) (now : Time.Instant) (request : Http.Request)
    (backend : Backend) :
    UnderPolicy portal request ((portal.answer now request).value backend) := by
  have hallow (more : List (String × String)) :
      headerValues "access-control-allow-origin" (allowHeader :: more) =
        headerValues "access-control-allow-origin" more := Http.headerValues_cons_of_ne (by decide)
  have hpreflight :
      headerValues "access-control-allow-origin" OriginPolicy.preflightHeaders = [] := by decide
  by_cases hoptions : request.method = "OPTIONS"
  · simp only [answer, if_pos hoptions, Fetch.value_pure]
    refine ⟨?_, rfl⟩
    rw [Response.allowed_ofContent]
    split <;> simp [hallow, hpreflight, OriginPolicy.headerValues_headers]
  · cases hroute : dispatch? portal.table request.path with
    | none =>
      simp only [answer, if_neg hoptions, hroute, Fetch.value_pure]
      exact ⟨by rw [Response.allowed_ofContent, OriginPolicy.headerValues_headers], rfl⟩
    | some found =>
      by_cases hread : isRead request.method = true
      · rw [value_answer hread hroute]
        exact ⟨by rw [Response.allowed_ofContent, OriginPolicy.headerValues_headers], origins_act⟩
      · simp only [answer, if_neg hoptions, hroute, if_neg hread, Fetch.value_pure]
        refine ⟨?_, rfl⟩
        rw [Response.allowed_ofContent, hallow, OriginPolicy.headerValues_headers]

/-! ## All visits -/

theorem underPolicy_visit (portal : Portal) (visit : Visit) :
    UnderPolicy portal visit.request (portal.visit visit) :=
  let ⟨hallowed, horigins⟩ := underPolicy_answer
    { portal with environment := { portal.environment with storage := visit.storage } }
    visit.now visit.request visit.backend
  ⟨hallowed, horigins⟩

theorem allowed_of_mem_exchanges {visits : List Visit} {exchange : Exchange}
    (h : exchange ∈ portal.exchanges visits) :
    exchange.response.allowed = (portal.origins.allowed? exchange.visit.request).toList := by
  induction visits generalizing portal with
  | nil => exact absurd h List.not_mem_nil
  | cons visit rest ih =>
    have hvisit := underPolicy_visit portal visit
    rcases List.mem_cons.1 h with rfl | hrest
    · exact hvisit.allowed
    · rw [ih hrest, hvisit.origins]

theorem ofOrigins?_of_build {settings : Settings} {plugins : List Plugin.Registration}
    {environment : Plugin.Environment} (h : build settings plugins environment = .ok portal) :
    OriginPolicy.ofOrigins? settings.server.origins = some portal.origins := by
  unfold build at h
  dsimp only at h
  split at h
  · cases h
  · split at h
    · cases h
    · rename_i origins horigins
      cases h
      exact horigins

/-- If the wildcard is not among the origins of the settings, a portal is built, and over any visits
each response allows any origin if no origin is listed, and otherwise the origin of the request
exactly if it is listed. -/
theorem allows_listed_origins (settings : Settings) (plugins : List Plugin.Registration)
    (environment : Plugin.Environment) (h : "*" ∉ settings.server.origins) :
    ∃ portal, build settings plugins environment = .ok portal ∧
      ∀ visits, ∀ exchange ∈ portal.exchanges visits, exchange.visit.request.HasHeaderValues →
        exchange.response.Allows settings.server.origins exchange.visit.request := by
  obtain ⟨origins, hbuild⟩ := build_of_not_mem plugins environment h
  refine ⟨_, hbuild, fun visits exchange hexchange hrequest => ?_⟩
  exact Response.allows_of_eq (ofOrigins?_of_build hbuild) hrequest
    (allowed_of_mem_exchanges hexchange)

/-- One usable origin and one that no header can have. -/
def listedSettings : Settings :=
  { Settings.defaults "plugins" with server := { origins := ["https://a.example", "b\n"] } }

def foreignVisit : Visit :=
  ⟨⟨0, 0, 0⟩, fun _ => .refused 404, {}, ⟨"OPTIONS", "/none", [("Origin", "https://a.example")]⟩⟩

theorem foreignVisit_allowed :
    "*" ∉ listedSettings.server.origins ∧ foreignVisit.request.HasHeaderValues ∧
      ∃ portal, build listedSettings [] ⟨{}, fun _ => 0⟩ = .ok portal ∧
        (portal.exchange foreignVisit).response.allowed = ["https://a.example"] := by
  have hlisted : "*" ∉ listedSettings.server.origins := by decide
  have hvalues : foreignVisit.request.HasHeaderValues := by
    unfold Http.Request.HasHeaderValues
    decide
  have horigin : foreignVisit.request.header? "origin" = some "https://a.example" := by decide
  obtain ⟨portal, hbuild, hallows⟩ :=
    allows_listed_origins listedSettings [] ⟨{}, fun _ => 0⟩ hlisted
  have hanswer := hallows [foreignVisit] _ List.mem_cons_self hvalues
  exact ⟨hlisted, hvalues, portal, hbuild, hanswer.echo _ (by decide) horigin⟩

end Portal

end NetworkPortal
