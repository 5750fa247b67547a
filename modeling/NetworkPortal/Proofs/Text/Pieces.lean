import Mathlib.Data.List.Infix
import NetworkPortal.Text.Basic

/-! # Pieces of a text

What is between two cuts of a text occurs in it, and a text is cut in the same places when another
one follows after a cut.
-/
namespace NetworkPortal.Text

variable {c : Char} {text piece : String} {chars part : List Char}

theorem occurs_iff_isInfix : occurs part chars = true ↔ part <:+: chars := by
  induction chars with
  | nil => rw [occurs, List.isEmpty_iff, List.infix_nil]
  | cons c rest ih =>
    rw [occurs, Bool.or_eq_true, List.isPrefixOf_iff_prefix, ih, List.infix_cons_iff]

theorem contains_iff_isInfix : contains piece text = true ↔ piece.toList <:+: text.toList :=
  occurs_iff_isInfix

/-- How often a piece stands in a list of characters. -/
def occurrences (part chars : List Char) : ℕ := chars.tails.countP part.isPrefixOf

/-- A piece stands only where its first character does. -/
theorem occurrences_cons_append (h : c ∉ chars) (rest : List Char) :
    occurrences (c :: part) (c :: (chars ++ rest)) =
      occurrences (c :: part) rest + if part.isPrefixOf (chars ++ rest) then 1 else 0 := by
  have hskip : occurrences (c :: part) (chars ++ rest) = occurrences (c :: part) rest := by
    induction chars with
    | nil => rfl
    | cons d more ih =>
      obtain ⟨hne, hmore⟩ := not_or.mp (mt List.mem_cons.mpr h)
      rw [List.cons_append, occurrences, List.tails_cons, List.countP_cons_of_neg]
      · exact ih hmore
      · simp [hne]
  rw [← hskip, occurrences, List.tails_cons, List.countP_cons]
  simp [occurrences]

theorem infix_intercalate_of_mem {separator : List Char} {parts : List (List Char)}
    (h : part ∈ parts) : part <:+: separator.intercalate parts := by
  match parts, h with
  | [_], .head _ => simp
  | _ :: next :: rest, .head _ =>
    rw [List.intercalate_cons_cons, List.append_assoc]
    exact (List.prefix_append _ _).isInfix
  | first :: next :: rest, .tail _ h =>
    rw [List.intercalate_cons_cons]
    exact (infix_intercalate_of_mem h).trans (List.suffix_append _ _).isInfix

theorem mem_intercalate_cases {separator : List Char} {parts : List (List Char)}
    (h : c ∈ separator.intercalate parts) : c ∈ separator ∨ ∃ part ∈ parts, c ∈ part := by
  match parts, h with
  | [], h => simp at h
  | [part], h => exact .inr ⟨part, .head _, by simpa using h⟩
  | part :: next :: rest, h =>
    rw [List.intercalate_cons_cons, List.mem_append, List.mem_append] at h
    rcases h with (hpart | hseparator) | hrest
    · exact .inr ⟨part, .head _, hpart⟩
    · exact .inl hseparator
    · exact (mem_intercalate_cases hrest).imp_right fun ⟨other, hother, hc⟩ =>
        ⟨other, .tail _ hother, hc⟩

theorem infix_of_mem_cutAt (h : piece ∈ cutAt c text) : piece.toList <:+: text.toList := by
  obtain ⟨part, hpart, rfl⟩ := List.mem_map.mp h
  rw [String.toList_ofList]
  have hwhole : part <:+: [c].intercalate (text.toList.splitOn c) := infix_intercalate_of_mem hpart
  rwa [List.intercalate_splitOn] at hwhole

theorem cutAt_ne_nil (c : Char) (text : String) : cutAt c text ≠ [] :=
  mt List.map_eq_nil_iff.mp (List.splitOn_ne_nil c text.toList)

theorem cutAt_slash_append (front back : String) :
    cutAt '/' (front ++ "/" ++ back) = cutAt '/' front ++ cutAt '/' back := by
  simp [cutAt, List.splitOn_append_cons_self]

theorem cutAt_append_slash (front : String) :
    cutAt '/' (front ++ "/") = cutAt '/' front ++ [""] := by
  rw [← String.append_empty (s := front ++ "/"), cutAt_slash_append]
  rfl

end NetworkPortal.Text
