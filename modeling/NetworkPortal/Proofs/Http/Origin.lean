import NetworkPortal.Http.Origin

/-! # Origins that are allowed

A list of origins calls for the wildcard if it is empty, and otherwise for the origin of the request
if it is listed. What cannot be the value of a header is dropped from the list, but no request has
it for its origin, so nothing is allowed or refused by dropping it.
-/
namespace NetworkPortal.Http

/-! ## Values of a header -/

variable {name key value : String} {headers : List (String × String)}

def isNamed (name key : String) : Bool := key.toList.map Char.toLower == name.toList

def headerValues (name : String) (headers : List (String × String)) : List String :=
  (headers.filter fun header => isNamed name header.1).map Prod.snd

@[simp] theorem headerValues_nil : headerValues name [] = [] := rfl

@[simp] theorem headerValues_append (front back : List (String × String)) :
    headerValues name (front ++ back) = headerValues name front ++ headerValues name back := by
  rw [headerValues, List.filter_append, List.map_append]
  rfl

theorem headerValues_cons (h : isNamed name key = true) :
    headerValues name ((key, value) :: headers) = value :: headerValues name headers := by
  simp only [headerValues, List.filter_cons, h, if_true, List.map_cons]

theorem headerValues_cons_of_ne (h : isNamed name key = false) :
    headerValues name ((key, value) :: headers) = headerValues name headers := by
  simp only [headerValues, List.filter_cons, h, Bool.false_eq_true, if_false]

theorem header?_eq (request : Request) (name : String) :
    request.header? name = (headerValues name request.headers).head? := by
  rw [headerValues, List.head?_map, List.head?_filter]
  rfl

theorem header?_eq_some_iff {request : Request}
    (h : (headerValues name request.headers).length ≤ 1) :
    request.header? name = some value ↔ value ∈ headerValues name request.headers := by
  rw [header?_eq]
  match headerValues name request.headers, h with
  | [], _ => simp
  | [only], _ => simp [eq_comm]

def Request.HasHeaderValues (request : Request) : Prop :=
  ∀ header ∈ request.headers, isHeaderValue header.2 = true

theorem Request.HasHeaderValues.of_header? {request : Request} (h : request.HasHeaderValues)
    (hvalue : request.header? name = some value) : isHeaderValue value = true := by
  rw [header?_eq] at hvalue
  obtain ⟨header, hheader, rfl⟩ := List.mem_map.1 (List.mem_of_head? hvalue)
  exact h header (List.mem_filter.1 hheader).1

/-! ## Allowed origins -/

variable {origins : List String} {policy : OriginPolicy} {request : Request} {response : Response}

theorem OriginPolicy.allowed?_eq (hpolicy : ofOrigins? origins = some policy)
    (hrequest : request.HasHeaderValues) :
    policy.allowed? request =
      if origins = [] then some "*" else (request.header? "origin").filter (· ∈ origins) := by
  cases origins with
  | nil =>
    cases hpolicy
    rfl
  | cons first rest =>
    rw [ofOrigins?, List.isEmpty_cons, if_neg Bool.false_ne_true, Option.ite_none_left_eq_some]
      at hpolicy
    obtain ⟨-, hlisted⟩ := hpolicy
    cases hlisted
    rw [allowed?, if_neg (List.cons_ne_nil _ _)]
    cases horigin : request.header? "origin" with
    | none => rfl
    | some origin =>
      have husable : origin ∈ (first :: rest).filter isHeaderValue ↔ origin ∈ first :: rest := by
        rw [List.mem_filter]
        exact and_iff_left (hrequest.of_header? horigin)
      simp only [Option.filter_some, husable]

def Response.allowed (response : Response) : List String :=
  headerValues "access-control-allow-origin" response.headers

/-- The response allows what a list of origins calls for: any origin if the list is empty, and
otherwise the origin of the request if it is listed. -/
structure Response.Allows (response : Response) (origins : List String) (request : Request) :
    Prop where
  allows_iff : response.allowed ≠ [] ↔
    origins = [] ∨ ∃ origin ∈ origins, request.header? "origin" = some origin
  wildcard : origins = [] → response.allowed = ["*"]
  echo : ∀ origin ∈ origins, request.header? "origin" = some origin → response.allowed = [origin]
  /-- A list of nothing but texts that no header can have allows nothing. -/
  unusable : origins ≠ [] → (∀ origin ∈ origins, isHeaderValue origin = false) →
    response.allowed = []
  /-- The origin of the request is the one that it names, if it names one only. -/
  single : (headerValues "origin" request.headers).length ≤ 1 → (response.allowed ≠ [] ↔
    origins = [] ∨ ∃ origin ∈ origins, origin ∈ headerValues "origin" request.headers)

theorem Response.allowed_ofContent (status : Nat) (content : Option Content)
    (extra : List (String × String)) (withBody : Bool) :
    (ofContent status content extra withBody).allowed =
      headerValues "access-control-allow-origin" extra := by
  rw [allowed, ofContent, headerValues_append, headerValues_cons_of_ne (by decide)]
  cases content with
  | none => rfl
  | some content => exact congrArg (· ++ _) (headerValues_cons_of_ne (by decide))

theorem OriginPolicy.headerValues_headers (policy : OriginPolicy) (request : Request) :
    headerValues "access-control-allow-origin" (policy.headers request) =
      (policy.allowed? request).toList := by
  rw [headers, headerValues_cons_of_ne (by decide)]
  cases policy.allowed? request with
  | none => rfl
  | some origin => exact headerValues_cons (by decide)

theorem Response.allows_of_eq (hpolicy : OriginPolicy.ofOrigins? origins = some policy)
    (hrequest : request.HasHeaderValues)
    (h : response.allowed = (policy.allowed? request).toList) :
    response.Allows origins request := by
  have hwildcard : origins = [] → response.allowed = ["*"] := by
    intro hempty
    rw [h, OriginPolicy.allowed?_eq hpolicy hrequest, if_pos hempty]
    rfl
  have hecho : ∀ origin ∈ origins, request.header? "origin" = some origin →
      response.allowed = [origin] := by
    intro origin hlisted horigin
    rw [h, OriginPolicy.allowed?_eq hpolicy hrequest, if_neg (List.ne_nil_of_mem hlisted), horigin,
      Option.filter_some, if_pos (decide_eq_true hlisted)]
    rfl
  have hnone : origins ≠ [] → (∀ origin ∈ origins, request.header? "origin" ≠ some origin) →
      response.allowed = [] := by
    intro hne hother
    rw [h, OriginPolicy.allowed?_eq hpolicy hrequest, if_neg hne]
    cases horigin : request.header? "origin" with
    | none => rfl
    | some origin =>
      have hunlisted : origin ∉ origins := fun hlisted => hother origin hlisted horigin
      rw [Option.filter_some, if_neg (by simpa using hunlisted)]
      rfl
  have hiff : response.allowed ≠ [] ↔
      origins = [] ∨ ∃ origin ∈ origins, request.header? "origin" = some origin := by
    constructor
    · intro hallowed
      by_cases hempty : origins = []
      · exact .inl hempty
      · refine .inr (Classical.byContradiction fun hnot => hallowed (hnone hempty ?_))
        exact fun origin hlisted horigin => hnot ⟨origin, hlisted, horigin⟩
    · rintro (hempty | ⟨origin, hlisted, horigin⟩)
      · rw [hwildcard hempty]
        exact List.cons_ne_nil _ _
      · rw [hecho origin hlisted horigin]
        exact List.cons_ne_nil _ _
  refine ⟨hiff, hwildcard, hecho, fun hne hunusable => ?_, fun hsingle => ?_⟩
  · refine hnone hne fun origin hlisted horigin => ?_
    exact Bool.eq_false_iff.1 (hunusable origin hlisted) (hrequest.of_header? horigin)
  · simp only [hiff, header?_eq_some_iff hsingle]

end NetworkPortal.Http
