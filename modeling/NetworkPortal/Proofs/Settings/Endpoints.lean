import Mathlib.Data.List.Basic
import NetworkPortal.Proofs.Text.DotSegment
import NetworkPortal.Settings.Endpoints

/-! # Addresses lead where their segments say

The address made of safe segments cuts back into exactly those segments, whatever they hold, and no
reader of the address turns one of them into a step, a query or a fragment. So different segments
make different addresses.
-/
namespace NetworkPortal.Settings

open Text (cutAt isDotSegment removeDotSegments)
open Text.Percent (encode decode?)

/-- A segment that every reader of an address takes for a name. -/
structure IsPlainSegment (segment : String) : Prop where
  ne_empty : segment ≠ ""
  not_dot : isDotSegment segment = false
  no_delimiter : ∀ c ∈ ['/', '?', '#', '\\'], c ∉ segment.toList

theorem IsPlainSegment.no_slash {segment : String} (h : IsPlainSegment segment) :
    '/' ∉ segment.toList :=
  h.no_delimiter '/' List.mem_cons_self

theorem encode_ne_empty {name : String} (h : name ≠ "") : encode name ≠ "" := by
  intro hempty
  exact h (Text.eq_of_bytes_encode (by decide +kernel) (by rw [hempty]))

theorem ne_of_isSafeSegment {name : String} (h : isSafeSegment name = true) :
    name ≠ "" ∧ name ≠ "." ∧ name ≠ ".." := by
  refine ⟨?_, ?_, ?_⟩
  all_goals
    rintro rfl
    exact absurd h (by decide +kernel)

theorem isPlainSegment_encode {name : String} (h : isSafeSegment name = true) :
    IsPlainSegment (encode name) := by
  obtain ⟨hempty, hstay, hup⟩ := ne_of_isSafeSegment h
  refine ⟨encode_ne_empty hempty, ?_, ?_⟩
  · rw [← Bool.not_eq_true]
    intro hdot
    exact (Text.eq_of_isDotSegment_encode hdot).elim hstay hup
  · intro c hc hmem
    have hencoded := Text.Percent.isEncodedChar_of_mem_encode hmem
    simp only [List.mem_cons, List.not_mem_nil, or_false] at hc
    rcases hc with rfl | rfl | rfl | rfl
    all_goals exact absurd hencoded (by decide)

/-- `path` holds `stem` and then a segment for each of `names` between its slashes: the segments
read back as the names, all of them are plain, and no step is carried out in the path. -/
structure HoldsNames (stem names : List String) (path : String) (segments : List String) :
    Prop where
  cut : cutAt '/' path = "" :: stem ++ segments ++ [""]
  decoded : segments.map decode? = names.map some
  plain : ∀ s ∈ segments, IsPlainSegment s
  settled : removeDotSegments path = path

/-- `url` is the base address without the slashes at its end and a path that holds `names`. -/
def AddsNames (api : Api) (stem names : List String) (url : String) : Prop :=
  ∃ path segments, url = Text.trimEnd '/' api.baseUrl ++ path ∧ HoldsNames stem names path segments

theorem holdsNames_encode {stem names : List String} (hstem : ∀ s ∈ stem, IsPlainSegment s)
    (hnames : ∀ name ∈ names, isSafeSegment name = true) :
    HoldsNames stem names ("/".intercalate ("" :: (stem ++ names.map encode ++ [""])))
      (names.map encode) := by
  have hplain : ∀ s ∈ names.map encode, IsPlainSegment s := by
    simpa using fun name hname => isPlainSegment_encode (hnames name hname)
  have hempty : '/' ∉ "".toList := by decide
  have hslash : ∀ s ∈ stem ++ names.map encode ++ [""], '/' ∉ s.toList := by
    intro s hs
    rcases List.mem_append.mp hs with hs | hs
    · exact ((List.mem_append.mp hs).elim (hstem s) (hplain s)).no_slash
    · exact List.mem_singleton.mp hs ▸ hempty
  have hdot : ∀ s ∈ stem ++ names.map encode ++ [""], isDotSegment s = false := by
    intro s hs
    rcases List.mem_append.mp hs with hs | hs
    · exact ((List.mem_append.mp hs).elim (hstem s) (hplain s)).not_dot
    · rw [List.mem_singleton.mp hs]
      decide
  refine ⟨?_, ?_, hplain, Text.removeDotSegments_intercalate hempty hslash hdot⟩
  · exact Text.cutAt_intercalate (List.cons_ne_nil _ _)
      (List.forall_mem_cons.mpr ⟨hempty, hslash⟩)
  · simp only [List.map_map, Function.comp_def, Text.Percent.decode?_encode]

theorem AddsNames.names_eq {api : Api} {stem names names' : List String} {url : String}
    (h : AddsNames api stem names url) (h' : AddsNames api stem names' url) : names = names' := by
  obtain ⟨path, segments, hurl, hholds⟩ := h
  obtain ⟨path', segments', hurl', hholds'⟩ := h'
  have hpath : path = path' := by
    have htext := congrArg String.toList (hurl.symm.trans hurl')
    rw [String.toList_append, String.toList_append] at htext
    exact String.toList_inj.mp (List.append_cancel_left htext)
  have hcut := hholds.cut
  rw [hpath, hholds'.cut] at hcut
  have hsegments : segments' = segments :=
    List.append_cancel_left (List.append_cancel_right hcut)
  have hdecoded := hholds.decoded
  rw [← hsegments, hholds'.decoded] at hdecoded
  exact (List.map_injective_iff.mpr (Option.some_injective String) hdecoded).symm

theorem AddsNames.ne {api : Api} {stem names names' : List String} {url url' : String}
    (h : AddsNames api stem names url) (h' : AddsNames api stem names' url')
    (hne : names ≠ names') : url ≠ url' := by
  rintro rfl
  exact hne (h.names_eq h')

theorem isPlainSegment_api : ∀ s ∈ ["api"], IsPlainSegment s := by
  intro s hs
  rw [List.mem_singleton.mp hs]
  exact ⟨by decide, by decide, by simp⟩

def AllSafe (names : List String) : Prop := ∀ name ∈ names, isSafeSegment name = true

instance (names : List String) : Decidable (AllSafe names) := by
  unfold AllSafe
  infer_instance

variable (api : Api)

theorem objectUrl_eq (app resource id : String) :
    api.objectUrl app resource id = api.origin ++
      "/".intercalate ("" :: (["api"] ++ [app, resource, id].map encode ++ [""])) := by
  apply String.toList_inj.mp
  simp [Api.objectUrl]

theorem listUrl_eq (app resource : String) :
    api.listUrl app resource = api.origin ++
      "/".intercalate ("" :: (["api"] ++ [app, resource].map encode ++ [""])) := by
  apply String.toList_inj.mp
  simp [Api.listUrl]

theorem slugViewUrl_eq (app resource slug : String) :
    api.slugViewUrl app resource slug = api.origin ++
      "/".intercalate ("" :: ([] ++ [app, resource, slug].map encode ++ [""])) := by
  apply String.toList_inj.mp
  simp [Api.slugViewUrl]

variable {api} {app resource id slug : String}

theorem addsNames_objectUrl (h : AllSafe [app, resource, id]) :
    AddsNames api ["api"] [app, resource, id] (api.objectUrl app resource id) :=
  ⟨_, _, objectUrl_eq api app resource id, holdsNames_encode isPlainSegment_api h⟩

theorem addsNames_listUrl (h : AllSafe [app, resource]) :
    AddsNames api ["api"] [app, resource] (api.listUrl app resource) :=
  ⟨_, _, listUrl_eq api app resource, holdsNames_encode isPlainSegment_api h⟩

theorem addsNames_slugViewUrl (h : AllSafe [app, resource, slug]) :
    AddsNames api [] [app, resource, slug] (api.slugViewUrl app resource slug) :=
  ⟨_, _, slugViewUrl_eq api app resource slug,
    holdsNames_encode (List.forall_mem_nil IsPlainSegment) h⟩

/-- The addresses of resources, lists and slug views hold the names they are made of, and no two
choices of safe names share an address. -/
theorem endpoints_hold_names (api : Api) :
    (∀ app resource id, AllSafe [app, resource, id] →
      AddsNames api ["api"] [app, resource, id] (api.objectUrl app resource id)) ∧
    (∀ app resource, AllSafe [app, resource] →
      AddsNames api ["api"] [app, resource] (api.listUrl app resource)) ∧
    (∀ app resource slug, AllSafe [app, resource, slug] →
      AddsNames api [] [app, resource, slug] (api.slugViewUrl app resource slug)) ∧
    (∀ app resource id app' resource' id',
      AllSafe [app, resource, id] → AllSafe [app', resource', id'] →
      [app, resource, id] ≠ [app', resource', id'] →
      api.objectUrl app resource id ≠ api.objectUrl app' resource' id') ∧
    (∀ app resource app' resource', AllSafe [app, resource] → AllSafe [app', resource'] →
      [app, resource] ≠ [app', resource'] →
      api.listUrl app resource ≠ api.listUrl app' resource') ∧
    (∀ app resource slug app' resource' slug',
      AllSafe [app, resource, slug] → AllSafe [app', resource', slug'] →
      [app, resource, slug] ≠ [app', resource', slug'] →
      api.slugViewUrl app resource slug ≠ api.slugViewUrl app' resource' slug') := by
  refine ⟨fun _ _ _ => addsNames_objectUrl, fun _ _ => addsNames_listUrl,
    fun _ _ _ => addsNames_slugViewUrl, ?_, ?_, ?_⟩
  · intro app resource id app' resource' id' h h' hne
    exact (addsNames_objectUrl h).ne (addsNames_objectUrl h') hne
  · intro app resource app' resource' h h' hne
    exact (addsNames_listUrl h).ne (addsNames_listUrl h') hne
  · intro app resource slug app' resource' slug' h h' hne
    exact (addsNames_slugViewUrl h).ne (addsNames_slugViewUrl h') hne

theorem endpoints_hold_hostile_names :
    AllSafe ["..%2F..%2Fx", "a/../b?c#d", "%2e\\é"] ∧
      AddsNames {} ["api"] ["..%2F..%2Fx", "a/../b?c#d", "%2e\\é"]
        (Api.objectUrl {} "..%2F..%2Fx" "a/../b?c#d" "%2e\\é") := by
  have hsafe : AllSafe ["..%2F..%2Fx", "a/../b?c#d", "%2e\\é"] := by decide +kernel
  exact ⟨hsafe, (endpoints_hold_names {}).1 _ _ _ hsafe⟩

end NetworkPortal.Settings
