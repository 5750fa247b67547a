import Mathlib.Data.List.Basic
import NetworkPortal.Proofs.Text.DotSegment
import NetworkPortal.Route.Router

/-! # Building and asking a router

A router is built of any routes whose paths are well formed and match different requests, and it
holds one row for each of them. The row that answers a path is one that matches it.
-/
namespace NetworkPortal.Route

open Text (cutAt)

def pathOf (segments : List String) : String := "/".intercalate ("" :: segments)

theorem segments?_pathOf {segments : List String} (hne : segments ≠ [])
    (h : ∀ s ∈ segments, '/' ∉ s.toList) : segments? (pathOf segments) = some segments := by
  have hpieces : ∀ s ∈ "" :: segments, '/' ∉ s.toList :=
    List.forall_mem_cons.mpr ⟨by decide, h⟩
  have hcut : cutAt '/' (pathOf segments) = "" :: segments :=
    Text.cutAt_intercalate (List.cons_ne_nil _ _) hpieces
  have hempty : segments.isEmpty = false := by simp [hne]
  simp only [segments?, hcut, hempty]
  rfl

theorem pathOf_of_segments? {path : String} {segments : List String}
    (h : segments? path = some segments) :
    pathOf segments = path ∧ ∀ s ∈ segments, '/' ∉ s.toList := by
  unfold segments? at h
  split at h
  · next first rest hcut =>
    split at h
    · next hfirst =>
      obtain rfl := Option.some.inj h
      obtain rfl : first = "" := String.isEmpty_iff.mp (Bool.and_eq_true_iff.mp hfirst).1
      refine ⟨?_, ?_⟩
      · rw [pathOf, ← hcut]
        exact Text.intercalate_cutAt path
      · intro s hs
        exact Text.not_mem_of_mem_cutAt (hcut ▸ List.mem_cons_of_mem _ hs)
    · cases h
  · cases h

theorem ne_nil_of_segments? {path : String} {segments : List String}
    (h : segments? path = some segments) : segments ≠ [] := by
  unfold segments? at h
  split at h
  · next first rest _ =>
    split at h
    · next hfirst =>
      obtain rfl := Option.some.inj h
      have hrest := (Bool.and_eq_true_iff.mp hfirst).2
      intro hnil
      rw [hnil] at hrest
      cases hrest
    · cases h
  · cases h

theorem segments?_eq_some_iff {path : String} {segments : List String} :
    segments? path = some segments ↔
      segments ≠ [] ∧ (∀ s ∈ segments, '/' ∉ s.toList) ∧ path = pathOf segments := by
  constructor
  · intro h
    obtain ⟨hpath, hslash⟩ := pathOf_of_segments? h
    exact ⟨ne_nil_of_segments? h, hslash, hpath.symm⟩
  · rintro ⟨hne, hslash, rfl⟩
    exact segments?_pathOf hne hslash

theorem Segment.ofText?_eq_literal {text : String}
    (h : ∀ c ∈ text.toList, c ≠ ':' ∧ c ≠ '*') : ofText? text = some (.literal text) := by
  have hany : text.toList.any (fun c => c = ':' || c = '*') = false := by
    rw [List.any_eq_false]
    intro c hc
    simp [h c hc]
  unfold ofText?
  split
  · next name hname => exact absurd rfl (h ':' (by simp [hname])).1
  · rw [hany]
    rfl

namespace Pattern

theorem length_of_match? {pattern : Pattern} {segments : List String}
    {values : List (String × String)} (h : pattern.match? segments = some values) :
    pattern.length = segments.length := by
  fun_induction match? pattern segments generalizing values with
  | case1 => rfl
  | case2 text rest more ih => simp [ih h]
  | case3 => cases h
  | case4 => cases h
  | case5 => rfl
  | case6 name rest raw more _ ih =>
    obtain ⟨found, hfound, _⟩ := Option.map_eq_some_iff.mp h
    simp [ih hfound]
  | case7 => cases h

theorem match?_eq_none_of_length {pattern : Pattern} {segments : List String}
    (h : pattern.length ≠ segments.length) : pattern.match? segments = none := by
  cases hmatch : pattern.match? segments with
  | none => rfl
  | some values => exact absurd (length_of_match? hmatch) h

theorem match?_literals_iff (texts : List String) {segments : List String}
    {values : List (String × String)} :
    match? (texts.map .literal) segments = some values ↔ segments = texts ∧ values = [] := by
  induction texts generalizing segments with
  | nil => cases segments <;> simp [match?, eq_comm]
  | cons text rest ih =>
    cases segments with
    | nil => simp [match?]
    | cons raw more =>
      rw [List.map_cons, match?, List.cons.injEq]
      split
      · next hraw => simp [ih, hraw]
      · next hraw => simp [hraw]

theorem exists_literals_of_isLiteral {pattern : Pattern} (h : pattern.isLiteral = true) :
    ∃ texts : List String, pattern = texts.map .literal := by
  induction pattern with
  | nil => exact ⟨[], rfl⟩
  | cons segment rest ih =>
    obtain ⟨hsegment, hrest⟩ := Bool.and_eq_true_iff.mp h
    obtain ⟨texts, rfl⟩ := ih hrest
    cases segment with
    | literal text => exact ⟨text :: texts, rfl⟩
    | parameter name => cases hsegment

theorem match?_parameters_iff (name : String) (names : List String) {segments : List String}
    {values : List (String × String)} :
    match? ((name :: names).map .parameter) segments = some values ↔
      segments.length = names.length + 1 ∧ segments.getLast? ≠ some "" ∧
        values = (name :: names).zip segments := by
  induction names generalizing name segments values with
  | nil =>
    match segments with
    | [] => simp [match?]
    | [raw] =>
      by_cases hraw : raw = ""
      · simp [match?, hraw]
      · simp [match?, hraw, @eq_comm _ values]
    | raw :: next :: more => simp [match?]
  | cons name' names ih =>
    match segments with
    | [] => simp [match?]
    | [raw] => simp [match?]
    | raw :: next :: more =>
      have hstep : match? ((name :: name' :: names).map .parameter) (raw :: next :: more) =
          (match? ((name' :: names).map .parameter) (next :: more)).map ((name, raw) :: ·) := rfl
      rw [hstep, Option.map_eq_some_iff]
      constructor
      · rintro ⟨found, hfound, rfl⟩
        obtain ⟨hlength, hlast, rfl⟩ := (ih name').mp hfound
        exact ⟨by simpa using hlength, by simpa using hlast, rfl⟩
      · rintro ⟨hlength, hlast, rfl⟩
        exact ⟨_, (ih name').mpr ⟨by simpa using hlength, by simpa using hlast, rfl⟩, rfl⟩

end Pattern

namespace Router

variable {α : Type}

theorem add_eq_ok {router : Router α} {path : String} {action : α} {pattern : Pattern}
    (hpattern : Pattern.ofPath? path = some pattern)
    (hfree : ∀ row ∈ router, pattern.overlaps row.1 = false) :
    router.add path action = .ok (router ++ [(pattern, action)]) := by
  have hany : ¬ router.any (fun row => pattern.overlaps row.1) = true := by
    rw [Bool.not_eq_true, List.any_eq_false]
    intro row hrow
    simp [hfree row hrow]
  simp only [add, hpattern]
  exact if_neg hany

theorem foldlM_add_eq_ok {routes : List (String × α)} {done added : Router α}
    (hrows : routes.map (fun route => (Pattern.ofPath? route.1, route.2)) =
      added.map fun row => (some row.1, row.2))
    (hfree : (done ++ added).Pairwise fun earlier later =>
      later.1.overlaps earlier.1 = false) :
    routes.foldlM (fun router (path, action) => router.add path action) done =
      .ok (done ++ added) := by
  induction routes generalizing done added with
  | nil =>
    obtain rfl : added = [] := by simpa using hrows.symm
    rw [List.append_nil]
    rfl
  | cons route rest ih =>
    obtain ⟨path, action⟩ := route
    obtain ⟨⟨pattern, action'⟩, more, rfl, hrow, hmore⟩ := List.map_eq_cons_iff.mp hrows.symm
    obtain ⟨hpattern, haction⟩ : some pattern = Pattern.ofPath? path ∧ action' = action :=
      Prod.mk.inj hrow
    subst haction
    have hadd : done.add path action' = .ok (done ++ [(pattern, action')]) :=
      add_eq_ok hpattern.symm fun earlier hearlier =>
        (List.pairwise_append.mp hfree).2.2 earlier hearlier _ List.mem_cons_self
    rw [List.append_cons] at hfree ⊢
    rw [List.foldlM_cons]
    simp only [hadd]
    exact ih hmore.symm hfree

theorem build_eq_ok {routes : List (String × α)} {router : Router α}
    (hrows : routes.map (fun route => (Pattern.ofPath? route.1, route.2)) =
      router.map fun row => (some row.1, row.2))
    (hfree : router.Pairwise fun earlier later => later.1.overlaps earlier.1 = false) :
    build routes = .ok router :=
  foldlM_add_eq_ok hrows (by rwa [List.nil_append])

theorem matching_append (router more : Router α) (segments : List String) :
    Router.matching (router ++ more) segments =
      router.matching segments ++ more.matching segments :=
  List.filterMap_append

theorem mem_matching {router : Router α} {segments : List String} {pattern : Pattern}
    {action : α} {values : List (String × String)} :
    (pattern, action, values) ∈ router.matching segments ↔
      (pattern, action) ∈ router ∧ pattern.match? segments = some values := by
  simp only [matching, List.mem_filterMap, Option.map_eq_some_iff, Prod.mk.injEq, Prod.exists]
  constructor
  · rintro ⟨other, action', hmem, values', hvalues, rfl, rfl, rfl⟩
    exact ⟨hmem, hvalues⟩
  · rintro ⟨hmem, hvalues⟩
    exact ⟨pattern, action, hmem, values, hvalues, rfl, rfl, rfl⟩

theorem exists_row_of_dispatch? {router : Router α} {path : String} {action : α}
    {values : List (String × String)} (h : router.dispatch? path = some (action, values)) :
    ∃ segments pattern, segments? path = some segments ∧ (pattern, action) ∈ router ∧
      pattern.match? segments = some values := by
  obtain ⟨segments, hsegments, hfound⟩ := Option.bind_eq_some_iff.mp h
  obtain ⟨⟨pattern, answer⟩, hrow, rfl⟩ := Option.map_eq_some_iff.mp hfound
  have hmem : (pattern, action, values) ∈ router.matching segments := by
    rcases Option.or_eq_some_iff.mp hrow with hliteral | ⟨_, hhead⟩
    · exact List.mem_of_find?_eq_some hliteral
    · exact List.mem_of_mem_head? hhead
  exact ⟨segments, pattern, hsegments, mem_matching.mp hmem⟩

theorem dispatch?_of_segments? (router : Router α) {path : String} {segments : List String}
    (hsegments : segments? path = some segments) :
    router.dispatch? path =
      (((router.matching segments).find? (·.1.isLiteral)).or
        (router.matching segments).head?).map (·.2) := by
  rw [dispatch?, hsegments]
  rfl

theorem exists_dispatch?_eq_some {router : Router α} {path : String} {segments : List String}
    {pattern : Pattern} {action : α} {values : List (String × String)}
    (hsegments : segments? path = some segments) (hrow : (pattern, action) ∈ router)
    (hmatch : pattern.match? segments = some values) :
    ∃ found, router.dispatch? path = some found := by
  have hmem : (pattern, action, values) ∈ router.matching segments :=
    mem_matching.mpr ⟨hrow, hmatch⟩
  obtain ⟨first, rest, hmatching⟩ := List.exists_cons_of_ne_nil (List.ne_nil_of_mem hmem)
  rw [dispatch?_of_segments? router hsegments, hmatching]
  cases (first :: rest).find? (·.1.isLiteral) with
  | none => exact ⟨first.2, rfl⟩
  | some found => exact ⟨found.2, rfl⟩

theorem values_eq_nil_of_dispatch? {router : Router α} {path : String} {segments : List String}
    {literal : Pattern} {action other : α} {values values' : List (String × String)}
    (h : router.dispatch? path = some (action, values))
    (hsegments : segments? path = some segments) (hrow : (literal, other) ∈ router)
    (hliteral : literal.isLiteral = true) (hmatch : literal.match? segments = some values') :
    values = [] := by
  have hmem : (literal, other, values') ∈ router.matching segments :=
    mem_matching.mpr ⟨hrow, hmatch⟩
  have hsome : ((router.matching segments).find? (·.1.isLiteral)).isSome = true :=
    List.find?_isSome.mpr ⟨_, hmem, hliteral⟩
  obtain ⟨⟨pattern, answer⟩, hfind⟩ := Option.isSome_iff_exists.mp hsome
  rw [dispatch?_of_segments? router hsegments, hfind] at h
  obtain rfl : answer = (action, values) := Option.some.inj h
  have hpattern : pattern.isLiteral = true := by simpa using List.find?_some hfind
  obtain ⟨texts, rfl⟩ := Pattern.exists_literals_of_isLiteral hpattern
  have hmatched := (mem_matching.mp (List.mem_of_find?_eq_some hfind)).2
  exact ((Pattern.match?_literals_iff texts).mp hmatched).2

theorem dispatch?_of_matching_eq {router : Router α} {path : String} {segments : List String}
    {pattern : Pattern} {action : α} {values : List (String × String)}
    (hsegments : segments? path = some segments)
    (h : router.matching segments = [(pattern, action, values)]) :
    router.dispatch? path = some (action, values) := by
  simp only [dispatch?, hsegments, Option.bind_some, h, List.find?_cons, List.find?_nil,
    List.head?_cons]
  split <;> rfl

end Router

theorem decodeParameters_eq_ok_iff {parameters : List (String × String)} {values : List String} :
    decodeParameters parameters = .ok values ↔
      parameters.map (fun parameter => Text.Percent.decode? parameter.2) = values.map some := by
  induction parameters generalizing values with
  | nil => cases values <;> simp [decodeParameters]
  | cons parameter rest ih =>
    obtain ⟨name, raw⟩ := parameter
    rw [decodeParameters, List.map_cons]
    cases hraw : Text.Percent.decode? raw with
    | none => cases values <;> simp
    | some value =>
      cases values with
      | nil => cases decodeParameters rest <;> simp [Except.map]
      | cons first more =>
        simp only [List.map_cons, List.cons.injEq, Option.some.injEq, ← ih]
        cases decodeParameters rest <;> simp [Except.map]

theorem length_of_decodeParameters {parameters : List (String × String)} {values : List String}
    (h : decodeParameters parameters = .ok values) : values.length = parameters.length := by
  simpa using (congrArg List.length (decodeParameters_eq_ok_iff.mp h)).symm

end NetworkPortal.Route
