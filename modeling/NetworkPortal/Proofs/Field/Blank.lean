import Mathlib.Data.List.Basic
import NetworkPortal.Field.Rendered

/-! # Blank cells

A cell is blank exactly if its value is a reference whose label is null or the empty text, an empty
array inside an array, or an array of one such value. These are gaps, where a placeholder is
missing. With every gap filled no cell is blank, and a value is shown as if its gaps were filled
exactly if it has none, at any depth.
-/
namespace NetworkPortal

/-! ## The text of a value is never empty -/

theorem Decimal.Notation.write_ne_empty (style : Notation) (x : Binary64) :
    style.write x ≠ "" := by
  rw [write, Ne, String.ofList_eq_empty_iff]
  split
  · exact List.cons_ne_nil _ _
  · split
    -- A point stands in every positional number, and an `e` in every other.
    · unfold positional
      split <;> simp
    · simp [scientific]

namespace Json

theorem Number.text_ne_empty (value : Number) : value.text ≠ "" := by
  cases value with
  | integer value =>
    cases value with
    | ofNat n => exact Nat.repr_ne_empty
    | negSucc n =>
      intro h
      exact absurd (String.append_eq_empty_iff.mp h).1 (by decide)
  | real value => exact Decimal.Notation.write_ne_empty notation64 value

theorem compact_ne_empty (value : Json) : value.compact ≠ "" := by
  rw [compact, Ne, String.ofList_eq_empty_iff]
  cases value with
  | number value =>
    rw [chars, String.toList_eq_nil_iff]
    exact value.text_ne_empty
  | boolean value => cases value <;> decide
  | _ => simp [chars, quote]

end Json

/-! ## Cells -/

/-- The texts that a rendered value shows: the entries of a list, else its one text. -/
def Rendered.cells : Rendered → List String
  | .list items => items
  | value => [value.display]

namespace Json

variable {members : List (String × Json)} {value : Json}

def cells (value : Json) : List String := (Field.ofJson value).render.cells

def line (value : Json) : String := (Field.ofJson value).inline

def entries : Json → List Json
  | .array items => items
  | value => [value]

/-- Null or the empty text. -/
def isNothing : Json → Bool
  | .null => true
  | .string text => text.isEmpty
  | _ => false

/-- A reference with nothing for a label. -/
def isUnlabelled (members : List (String × Json)) : Bool :=
  (Keyed.get? "display" members).any isNothing

/-- Values that leave their cell blank. -/
inductive ShowsNothing : Json → Prop
  | reference {members : List (String × Json)} (h : isUnlabelled members = true) :
    ShowsNothing (.object members)
  | noItems : ShowsNothing (.array [])
  | onlyItem {item : Json} (h : ShowsNothing item) : ShowsNothing (.array [item])

mutual

/-- How many places at any depth of an entry show nothing. -/
def gaps : Json → ℕ
  | .array items => if items.isEmpty then 1 else gapsOfItems items
  | .object members => if isUnlabelled members then 1 else 0
  | _ => 0

def gapsOfItems : List Json → ℕ
  | [] => 0
  | item :: rest => item.gaps + gapsOfItems rest

end

mutual

/-- An entry with a dash in place of all that is null or empty in it. -/
def filled : Json → Json
  | .array items => if items.isEmpty then .string Rendered.dash else .array (filledItems items)
  | .object members =>
    if isUnlabelled members then .string Rendered.dash else .object members
  | value => if value.isNothing then .string Rendered.dash else value

def filledItems : List Json → List Json
  | [] => []
  | item :: rest => item.filled :: filledItems rest

end

theorem ofItems_eq_map (items : List Json) : Field.ofItems items = items.map Field.ofJson := by
  induction items with
  | nil => rfl
  | cons item rest ih => rw [Field.ofItems, ih, List.map_cons]

theorem filledItems_eq_map (items : List Json) : filledItems items = items.map filled := by
  induction items with
  | nil => rfl
  | cons item rest ih => rw [filledItems, ih, List.map_cons]

theorem line_array (items : List Json) :
    (Json.array items).line = ", ".intercalate (items.map line) := by
  rw [line, Field.ofJson, Field.inline, Field.inlineAll_eq_map, ofItems_eq_map, List.map_map]
  rfl

theorem line_string (text : String) :
    (Json.string text).line = if text.isEmpty then Rendered.dash else text := by
  rw [line, Field.ofJson]
  split <;> rfl

theorem line_of_isNothing (h : value.isNothing = true) : value.line = Rendered.dash := by
  cases value with
  | null => rfl
  | string text => exact (line_string text).trans (if_pos h)
  | _ => cases h

theorem labelText_eq_empty_iff : Field.labelText value = "" ↔ value.isNothing = true := by
  cases value with
  | null => exact iff_of_true rfl rfl
  | string text => exact String.isEmpty_iff.symm
  | _ => exact iff_of_false (compact_ne_empty _) Bool.false_ne_true

theorem line_object_eq_empty_iff :
    (Json.object members).line = "" ↔ isUnlabelled members = true := by
  rw [line, Field.ofJson, Field.ofMembers, isUnlabelled]
  cases Keyed.get? "display" members with
  | none => exact iff_of_false (compact_ne_empty _) Bool.false_ne_true
  | some label => exact labelText_eq_empty_iff

theorem cells_eq_map_line (value : Json) : value.cells = value.entries.map line := by
  have hone : ∀ field : Field, (∀ items, field ≠ .list items) →
      field.render.cells = [field.inline] := by
    intro field hlist
    cases field with
    | list items => exact absurd rfl (hlist items)
    | _ => rfl
  cases value with
  | array items =>
    rw [cells, Field.ofJson, Field.render, ofItems_eq_map, List.map_map]
    rfl
  | string text =>
    refine hone _ fun items => ?_
    rw [Field.ofJson]
    split <;> simp
  | object members =>
    refine hone _ fun items => ?_
    rw [Field.ofJson, Field.ofMembers]
    split <;> simp
  | _ => rfl

/-! ## Which lines are blank -/

theorem intercalate_eq_empty_iff {separator : String} (hseparator : separator ≠ "")
    {texts : List String} :
    separator.intercalate texts = "" ↔ texts = [] ∨ texts = [""] := by
  match texts with
  | [] => simp
  | [text] => simp
  | text :: next :: rest =>
    rw [String.intercalate_cons_cons, String.append_eq_empty_iff, String.append_eq_empty_iff]
    simp [hseparator]

theorem line_eq_empty_iff (value : Json) : value.line = "" ↔ value.ShowsNothing := by
  constructor
  · intro h
    match value with
    | .null => exact absurd h (by decide)
    | .boolean value => cases value <;> exact absurd h (by decide)
    | .number value => exact absurd h value.text_ne_empty
    | .string text =>
      rw [line_string] at h
      split at h
      · exact absurd h (by decide)
      · next hempty => exact absurd (String.isEmpty_iff.mpr h) hempty
    | .object members => exact .reference (line_object_eq_empty_iff.mp h)
    | .array items =>
      rw [line_array, intercalate_eq_empty_iff (by decide)] at h
      rcases h with h | h
      · rw [List.map_eq_nil_iff.mp h]
        exact .noItems
      · obtain ⟨item, rfl, hitem⟩ := List.map_eq_singleton_iff.mp h
        exact .onlyItem ((line_eq_empty_iff item).mp hitem)
  · intro h
    induction h with
    | reference h => exact line_object_eq_empty_iff.mpr h
    | noItems => rfl
    | onlyItem _ ih => rw [line_array, List.map_singleton, String.intercalate_singleton, ih]

/-! ## Filling the gaps -/

theorem line_filled_string (text : String) :
    (Json.string text).filled.line = (Json.string text).line := by
  change (if (Json.string text).isNothing then Json.string Rendered.dash else .string text).line = _
  split
  · next h =>
    rw [line_of_isNothing h]
    decide
  · rfl

theorem line_filled_ne_empty (value : Json) : value.filled.line ≠ "" := by
  match value with
  | .null => decide
  | .boolean value => cases value <;> decide
  | .number value => exact value.text_ne_empty
  | .string text =>
    rw [line_filled_string, line_string]
    split
    · decide
    · next hempty => exact mt String.isEmpty_iff.mpr hempty
  | .object members =>
    rw [filled]
    split
    · decide
    · next hlabel => exact mt line_object_eq_empty_iff.mp hlabel
  | .array items =>
    rw [filled]
    split
    · decide
    · next hitems =>
      rw [line_array, filledItems_eq_map, List.map_map, Ne, intercalate_eq_empty_iff (by decide)]
      rintro (h | h)
      · exact hitems (List.isEmpty_iff.mpr (List.map_eq_nil_iff.mp h))
      · obtain ⟨item, rfl, hitem⟩ := List.map_eq_singleton_iff.mp h
        exact line_filled_ne_empty item hitem

theorem gapsOfItems_eq_zero_iff {items : List Json} :
    gapsOfItems items = 0 ↔ ∀ item ∈ items, item.gaps = 0 := by
  induction items with
  | nil => simp [gapsOfItems]
  | cons item rest ih => rw [gapsOfItems, Nat.add_eq_zero_iff, ih, List.forall_mem_cons]

theorem line_filled_of_gaps (value : Json) (h : value.gaps = 0) :
    value.filled.line = value.line := by
  match value with
  | .null => rfl
  | .boolean _ => rfl
  | .number _ => rfl
  | .string text => exact line_filled_string text
  | .object members =>
    rw [gaps] at h
    rw [filled]
    split
    · next hlabel =>
      rw [if_pos hlabel] at h
      cases h
    · rfl
  | .array items =>
    rw [gaps] at h
    rw [filled]
    split
    · next hitems =>
      rw [if_pos hitems] at h
      cases h
    · next hitems =>
      rw [if_neg hitems, gapsOfItems_eq_zero_iff] at h
      rw [line_array, line_array, filledItems_eq_map, List.map_map]
      refine congrArg _ (List.map_congr_left fun item hitem => ?_)
      exact line_filled_of_gaps item (h item hitem)

mutual

theorem length_line_filled (value : Json) :
    value.filled.line.length = value.line.length + value.gaps := by
  match value with
  | .null => rfl
  | .boolean _ => rfl
  | .number _ => rfl
  | .string text => exact congrArg String.length (line_filled_string text)
  | .object members =>
    rw [filled, gaps]
    split
    · next hlabel =>
      rw [line_object_eq_empty_iff.mpr hlabel]
      decide
    · rfl
  | .array items =>
    rw [filled, gaps]
    split
    · next hitems =>
      rw [List.isEmpty_iff.mp hitems]
      decide
    · rw [line_array, line_array, filledItems_eq_map, List.map_map]
      exact length_join_filled items

theorem length_join_filled (items : List Json) :
    (", ".intercalate (items.map (line ∘ filled))).length =
      (", ".intercalate (items.map line)).length + gapsOfItems items := by
  match items with
  | [] => rfl
  | [item] =>
    have hitem := length_line_filled item
    simpa [gapsOfItems] using hitem
  | item :: next :: rest =>
    have hitem := length_line_filled item
    have hrest := length_join_filled (next :: rest)
    simp only [List.map_cons, Function.comp_apply, String.intercalate_cons_cons,
      String.length_append] at hrest ⊢
    rw [gapsOfItems]
    omega

end

/-- A cell is blank exactly if its entry shows nothing, and a value is shown with a placeholder in
place of all that is null or empty exactly if none of its entries has a gap. With the gaps filled no
cell would be blank. -/
theorem cells_blank_at_gaps (value : Json) :
    ("" ∈ value.cells ↔ ∃ entry ∈ value.entries, entry.ShowsNothing) ∧
    (value.cells = value.entries.map (line ∘ filled) ↔ ∀ entry ∈ value.entries, entry.gaps = 0) ∧
    "" ∉ value.entries.map (line ∘ filled) := by
  rw [cells_eq_map_line]
  refine ⟨?_, ?_, ?_⟩
  · rw [List.mem_map]
    exact exists_congr fun entry => and_congr_right fun _ => line_eq_empty_iff entry
  · rw [List.map_inj_left]
    refine forall₂_congr fun entry _ => ⟨fun h => ?_, fun h => (line_filled_of_gaps entry h).symm⟩
    have hlength := length_line_filled entry
    have hsame : line entry = line (filled entry) := h
    rw [← hsame] at hlength
    omega
  · intro h
    obtain ⟨entry, _, hentry⟩ := List.mem_map.mp h
    exact line_filled_ne_empty entry hentry

/-- A reference whose label is null leaves its cell blank, and so does an empty array in an array. -/
theorem unlabelled_reference_blank :
    (Json.object [("display", .null)]).cells = [""] ∧ (Json.array [.array []]).cells = [""] := by
  decide

end Json

end NetworkPortal
