import Mathlib.Data.List.TakeWhile
import NetworkPortal.Http.Message
import NetworkPortal.Proofs.Route.Router
import NetworkPortal.Proofs.Text.Verbatim

/-! # Links written with names as they stand

A link that holds names as they stand between its slashes is read back as these names exactly if
each of them is read as itself there. The bytes of the link are counted for this: no name is longer
than the segment it is read from, and the segments are no longer than the link. A link written with
encoded names is always read as these names.
-/
namespace NetworkPortal.Route

open Http (Request beforeQuery afterHost?)
open Text.Percent (decode? encode hasCode)

/-- No character of a text ends a segment or a path. -/
structure NoDelimiter (text : String) : Prop where
  slash : '/' ∉ text.toList
  query : '?' ∉ text.toList
  fragment : '#' ∉ text.toList

/-- A text that is read as itself wherever it stands between the slashes of a path. -/
structure IsVerbatim (text : String) : Prop where
  no_delimiter : NoDelimiter text
  no_code : hasCode text.toList = false

theorem isVerbatim_iff {text : String} : IsVerbatim text ↔
    '/' ∉ text.toList ∧ '?' ∉ text.toList ∧ '#' ∉ text.toList ∧ hasCode text.toList = false :=
  ⟨fun h => ⟨h.no_delimiter.slash, h.no_delimiter.query, h.no_delimiter.fragment, h.no_code⟩,
    fun h => ⟨⟨h.1, h.2.1, h.2.2.1⟩, h.2.2.2⟩⟩

instance (text : String) : Decidable (IsVerbatim text) := decidable_of_iff' _ isVerbatim_iff

theorem pathOf_cons (segment : String) (rest : List String) :
    pathOf (segment :: rest) = "/" ++ segment ++ pathOf rest := by
  apply String.toList_inj.mp
  cases rest <;> simp [pathOf]

theorem utf8ByteSize_pathOf (segments : List String) :
    (pathOf segments).utf8ByteSize =
      segments.length + (segments.map String.utf8ByteSize).sum := by
  induction segments with
  | nil => rfl
  | cons segment rest ih =>
    have hslash : "/".utf8ByteSize = 1 := rfl
    rw [pathOf_cons, String.utf8ByteSize_append, String.utf8ByteSize_append, ih, hslash,
      List.length_cons, List.map_cons, List.sum_cons]
    omega

theorem toList_pathOf (segments : List String) :
    (pathOf segments).toList = segments.flatMap fun s => '/' :: s.toList := by
  induction segments with
  | nil => rfl
  | cons segment rest ih =>
    rw [pathOf_cons, String.toList_append, String.toList_append, ih, List.flatMap_cons]
    rfl

theorem path_of_target_eq {request : Request} {names : List String} (hne : names ≠ [])
    (htarget : request.target = pathOf names) :
    request.path = .ofList (beforeQuery (pathOf names).toList) := by
  obtain ⟨first, rest, rfl⟩ := List.exists_cons_of_ne_nil hne
  have hhost : afterHost? (pathOf (first :: rest)).toList = none := by
    rw [toList_pathOf]
    rfl
  simp only [Request.path, htarget, hhost]

theorem utf8ByteSize_beforeQuery (chars : List Char) :
    (String.ofList (beforeQuery chars)).utf8ByteSize ≤ (String.ofList chars).utf8ByteSize := by
  have hsplit : String.ofList chars = .ofList (beforeQuery chars) ++
      .ofList (chars.dropWhile fun c => c != '?' && c != '#') := by
    rw [← String.ofList_append, beforeQuery, List.takeWhile_append_dropWhile]
  rw [hsplit, String.utf8ByteSize_append]
  exact Nat.le_add_right _ _

/-- Names are together no longer than the segments they are read from, and if they are as long then
they are the segments and no segment holds a code. -/
theorem sum_utf8ByteSize_of_decoded {raws names : List String}
    (h : raws.map decode? = names.map some) :
    (names.map String.utf8ByteSize).sum ≤ (raws.map String.utf8ByteSize).sum ∧
    ((names.map String.utf8ByteSize).sum = (raws.map String.utf8ByteSize).sum →
      names = raws ∧ ∀ raw ∈ raws, hasCode raw.toList = false) := by
  induction raws generalizing names with
  | nil =>
    obtain rfl : names = [] := List.map_eq_nil_iff.mp h.symm
    exact ⟨Nat.le_refl _, fun _ => ⟨rfl, List.forall_mem_nil _⟩⟩
  | cons raw rest ih =>
    obtain ⟨name, more, rfl, hname, hmore⟩ := List.map_eq_cons_iff.mp h.symm
    obtain ⟨hle, heq⟩ := Text.Percent.utf8ByteSize_of_decode? hname.symm
    obtain ⟨hles, heqs⟩ := ih hmore.symm
    simp only [List.map_cons, List.sum_cons]
    refine ⟨Nat.add_le_add hle hles, fun hsum => ?_⟩
    obtain ⟨rfl, hcode⟩ := heq (by omega)
    obtain ⟨rfl, hcodes⟩ := heqs (by omega)
    exact ⟨rfl, List.forall_mem_cons.mpr ⟨hcode, hcodes⟩⟩

/-- The segments of the path of a request are read as the given names. -/
def ReadsAs (request : Request) (names : List String) : Prop :=
  ∃ raws, segments? request.path = some raws ∧ raws.map decode? = names.map some

variable {request : Request} {names : List String}

theorem segments?_path (hne : names ≠ []) (htarget : request.target = pathOf names)
    (h : ∀ name ∈ names, NoDelimiter name) : segments? request.path = some names := by
  have hquery : beforeQuery (pathOf names).toList = (pathOf names).toList := by
    refine List.takeWhile_eq_self_iff.mpr fun c hc => ?_
    rw [toList_pathOf] at hc
    obtain ⟨name, hname, hcn⟩ := List.mem_flatMap.mp hc
    have hmark : c ≠ '?' ∧ c ≠ '#' := by
      rcases List.mem_cons.mp hcn with rfl | hcn
      · decide
      · constructor
        · rintro rfl
          exact (h name hname).query hcn
        · rintro rfl
          exact (h name hname).fragment hcn
    simp [hmark]
  rw [path_of_target_eq hne htarget, hquery, String.ofList_toList]
  exact segments?_pathOf hne fun name hname => (h name hname).slash

theorem noDelimiter_encode (text : String) : NoDelimiter (encode text) := by
  constructor
  all_goals
    intro hmem
    exact absurd (Text.Percent.isEncodedChar_of_mem_encode hmem) (by decide)

theorem readsAs_of_encode (hne : names ≠ [])
    (htarget : request.target = pathOf (names.map encode)) : ReadsAs request names := by
  refine ⟨names.map encode, segments?_path (by simpa using hne) htarget ?_, ?_⟩
  · intro raw hraw
    obtain ⟨name, _, rfl⟩ := List.mem_map.mp hraw
    exact noDelimiter_encode name
  · simp only [List.map_map, Function.comp_def, Text.Percent.decode?_encode]

/-- Decoding and cutting only shorten, so a link that is read as what it was put together from is
cut nowhere and decoded to itself. -/
theorem segments?_of_readsAs (hne : names ≠ []) (htarget : request.target = pathOf names)
    (h : ReadsAs request names) :
    segments? request.path = some names ∧ ∀ name ∈ names, hasCode name.toList = false := by
  obtain ⟨raws, hsegments, hdecoded⟩ := h
  obtain ⟨hle, heq⟩ := sum_utf8ByteSize_of_decoded hdecoded
  have hlength : raws.length = names.length := by simpa using congrArg List.length hdecoded
  have hsize := utf8ByteSize_beforeQuery (pathOf names).toList
  rw [← path_of_target_eq hne htarget, ← (pathOf_of_segments? hsegments).1, String.ofList_toList,
    utf8ByteSize_pathOf, utf8ByteSize_pathOf] at hsize
  obtain ⟨rfl, hcode⟩ := heq (by omega)
  exact ⟨hsegments, hcode⟩

theorem noDelimiter_of_segments? (hne : names ≠ []) (htarget : request.target = pathOf names)
    (h : segments? request.path = some names) : ∀ name ∈ names, NoDelimiter name := by
  obtain ⟨hpath, hslash⟩ := pathOf_of_segments? h
  have hquery : ∀ c ∈ (pathOf names).toList, c ≠ '?' ∧ c ≠ '#' := by
    rw [hpath, path_of_target_eq hne htarget, String.toList_ofList]
    intro c hc
    simpa using List.mem_takeWhile_imp hc
  intro name hname
  have hmem {c : Char} (hc : c ∈ name.toList) : c ∈ (pathOf names).toList := by
    rw [toList_pathOf]
    exact List.mem_flatMap.mpr ⟨name, hname, List.mem_cons_of_mem _ hc⟩
  exact ⟨hslash name hname, fun hc => (hquery _ (hmem hc)).1 rfl,
    fun hc => (hquery _ (hmem hc)).2 rfl⟩

/-- A link written with names as they stand is read as these names exactly if all of them are
verbatim. -/
theorem readsAs_iff (hne : names ≠ []) (htarget : request.target = pathOf names) :
    ReadsAs request names ↔ ∀ name ∈ names, IsVerbatim name := by
  constructor
  · intro h name hname
    obtain ⟨hsegments, hcode⟩ := segments?_of_readsAs hne htarget h
    exact ⟨noDelimiter_of_segments? hne htarget hsegments name hname, hcode name hname⟩
  · intro h
    have hdecoded : names.map decode? = names.map some :=
      List.map_congr_left fun name hname =>
        Text.Percent.decode?_of_not_hasCode (h name hname).no_code
    have hsegments := segments?_path hne htarget fun name hname => (h name hname).no_delimiter
    exact ⟨names, hsegments, hdecoded⟩

end NetworkPortal.Route
