import NetworkPortal.Proofs.Text.DotSegment
import NetworkPortal.Proofs.Text.Pieces
import NetworkPortal.Proofs.Text.Uppercase
import NetworkPortal.Text.Uppercase

/-! # Labels of keys

The label of two keys with an underscore between them is their labels with a blank between them. So
a label holds no underscore, and all that is left to do to it is to put its first character in upper
case, which it already is.
-/
namespace NetworkPortal.Text

variable {key : String} {segment : List Char}

theorem toList_humanize (key : String) :
    (humanize key).toList = [' '].intercalate ((key.toList.splitOn '_').map capitalize) :=
  String.toList_ofList

theorem humanize_eq_intercalate (key : String) :
    humanize key =
      " ".intercalate ((key.toList.splitOn '_').map fun segment => .ofList (capitalize segment)) := by
  apply String.toList_inj.mp
  rw [toList_humanize, String.toList_intercalate, List.map_map]
  simp [Function.comp_def]

theorem humanize_join (front back : String) :
    humanize (front ++ "_" ++ back) = humanize front ++ " " ++ humanize back := by
  have hchars : (front ++ "_" ++ back).toList = front.toList ++ '_' :: back.toList := by simp
  rw [humanize_eq_intercalate, hchars, List.splitOn_append_cons_self, List.map_append,
    String.intercalate_append_of_ne_nil, ← humanize_eq_intercalate, ← humanize_eq_intercalate]
  all_goals exact mt List.map_eq_nil_iff.mp (List.splitOn_ne_nil _ _)

/-! ## No underscore is left -/

theorem not_mem_capitalize (h : '_' ∉ segment) : '_' ∉ capitalize segment := by
  cases segment with
  | nil => exact h
  | cons c rest =>
    rw [List.mem_cons, not_or] at h
    rw [capitalize, List.mem_append, not_or]
    exact ⟨fun hupper => h.1 (eq_of_underscore_mem_upper hupper).symm, h.2⟩

theorem not_mem_humanize (key : String) : '_' ∉ (humanize key).toList := by
  rw [toList_humanize]
  intro h
  rcases mem_intercalate_cases h with hblank | ⟨part, hpart, hunderscore⟩
  · exact absurd hblank (by decide)
  · obtain ⟨segment, hsegment, rfl⟩ := List.mem_map.mp hpart
    exact not_mem_capitalize (not_mem_of_mem_splitOn hsegment) hunderscore

theorem humanize_of_not_mem (h : '_' ∉ key.toList) :
    humanize key = .ofList (capitalize key.toList) := by
  rw [humanize, List.splitOn_eq_singleton h, List.map_singleton, List.intercalate_singleton]

/-! ## The first character -/

theorem capitalize_eq_self {chars : List Char} (h : ∀ c ∈ chars.head?, upper c = [c]) :
    capitalize chars = chars := by
  cases chars with
  | nil => rfl
  | cons c rest => rw [capitalize, h c rfl, List.singleton_append]

theorem upper_of_mem_head?_capitalize {c : Char} (h : c ∈ (capitalize segment).head?) :
    upper c = [c] := by
  cases segment with
  | nil => cases h
  | cons first rest =>
    rw [capitalize, List.head?_append_of_ne_nil _ (upper_ne_nil first)] at h
    exact upper_of_mem_upper (List.mem_of_mem_head? h)

theorem mem_head?_intercalate_cases {c separator : Char} {parts : List (List Char)}
    (h : c ∈ ([separator].intercalate parts).head?) :
    c = separator ∨ ∃ part ∈ parts, c ∈ part.head? := by
  match parts, h with
  | [], h => cases h
  | [part], h => exact .inr ⟨part, .head _, by simpa using h⟩
  | [] :: next :: rest, h => exact .inl (by simpa [eq_comm] using h)
  | (first :: more) :: next :: rest, h =>
    refine .inr ⟨first :: more, .head _, ?_⟩
    rwa [List.intercalate_cons_cons, List.append_assoc, List.cons_append] at h

theorem humanize_humanize (key : String) : humanize (humanize key) = humanize key := by
  rw [humanize_of_not_mem (not_mem_humanize key), capitalize_eq_self, String.ofList_toList]
  intro c hc
  rw [toList_humanize] at hc
  rcases mem_head?_intercalate_cases hc with rfl | ⟨part, hpart, hhead⟩
  · decide +kernel
  · obtain ⟨segment, _, rfl⟩ := List.mem_map.mp hpart
    exact upper_of_mem_head?_capitalize hhead

/-- Labels are joined as their keys are, a blank standing for the underscore. They hold no
underscore, and a label is its own label. -/
theorem labels_join_and_settle (front back : String) :
    humanize (front ++ "_" ++ back) = humanize front ++ " " ++ humanize back ∧
      '_' ∉ (humanize front).toList ∧ humanize (humanize front) = humanize front :=
  ⟨humanize_join front back, not_mem_humanize front, humanize_humanize front⟩

example : humanize "_ßa__ŉ" = " SSa  ʼN" := by decide +kernel

end NetworkPortal.Text
