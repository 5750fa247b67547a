import Mathlib.Data.List.Infix
import NetworkPortal.Proofs.Html.Escape
import NetworkPortal.Proofs.Html.Skeleton

/-! # Entities in escaped text

Escaped text holds no markup, and an ampersand stands in it only where an entity begins. The texts
of this kind are exactly the escaped ones, so a reader that replaces entities loses nothing.
-/
namespace NetworkPortal.Html

def entities : List (List Char) :=
  ["&amp;".toList, "&lt;".toList, "&gt;".toList, "&quot;".toList, "&#39;".toList]

/-- No markup, and no ampersand but at the beginning of an entity. -/
structure IsEscaped (text : List Char) : Prop where
  no_mark : ∀ c ∈ text, isMark c = false
  begins_entity : ∀ rest, '&' :: rest <:+ text → ∃ entity ∈ entities, entity <+: '&' :: rest

theorem entities_eq : entities = specials.map escapeChar := by decide

theorem exists_name_of_mem {c : Char} (h : c ∈ specials) :
    ∃ name, '&' ∉ name ∧ escapeChar c = '&' :: name := by
  rcases mem_specials_iff.mp h with rfl | rfl | rfl | rfl | rfl
  all_goals exact ⟨_, by decide, rfl⟩

/-! ## Where an ampersand stands -/

theorem suffix_of_suffix_append {c : Char} {before after rest : List Char} (hc : c ∉ before)
    (h : c :: rest <:+ before ++ after) : c :: rest <:+ after := by
  induction before with
  | nil => exact h
  | cons d before ih =>
    obtain ⟨hne, hbefore⟩ := not_or.mp (mt List.mem_cons.mpr hc)
    rcases List.suffix_cons_iff.mp h with heq | hlater
    · exact absurd (List.cons.inj heq).1 hne
    · exact ih hbefore hlater

/-- An ampersand begins the entity of the first character, or stands in what follows. -/
theorem entity_or_suffix_of_suffix_append {c : Char} {rest after : List Char}
    (h : '&' :: rest <:+ escapeChar c ++ after) :
    (∃ entity ∈ entities, entity <+: '&' :: rest) ∨ '&' :: rest <:+ after := by
  by_cases hmem : c ∈ specials
  · obtain ⟨name, hname, hc⟩ := exists_name_of_mem hmem
    have hwritten : '&' :: rest <:+ '&' :: (name ++ after) := by
      rwa [hc, List.cons_append] at h
    rcases List.suffix_cons_iff.mp hwritten with hwhole | hlater
    · refine .inl ⟨escapeChar c, entities_eq ▸ List.mem_map_of_mem hmem, ?_⟩
      rw [hwhole, hc, ← List.cons_append]
      exact List.prefix_append _ _
    · exact .inr (suffix_of_suffix_append hname hlater)
  · have hne : '&' ∉ [c] := by
      rw [List.mem_singleton]
      intro hamp
      exact hmem (hamp ▸ List.mem_cons_self)
    rw [escapeChar_of_not_mem hmem] at h
    exact .inr (suffix_of_suffix_append hne h)

theorem exists_entity_of_suffix {chars rest : List Char}
    (h : '&' :: rest <:+ chars.flatMap escapeChar) :
    ∃ entity ∈ entities, entity <+: '&' :: rest := by
  induction chars with
  | nil => exact absurd (List.suffix_nil.mp h) (List.cons_ne_nil _ _)
  | cons c chars ih =>
    rw [List.flatMap_cons] at h
    rcases entity_or_suffix_of_suffix_append h with hentity | hlater
    · exact hentity
    · exact ih hlater

theorem isEscaped_escape (text : String) : IsEscaped (escape text).toList where
  no_mark _ hc := isMark_of_mem_escape hc
  begins_entity _ hrest := by
    rw [escape, String.toList_ofList] at hrest
    exact exists_entity_of_suffix hrest

/-! ## Taking escaped text apart -/

namespace IsEscaped

variable {text rest : List Char}

theorem of_suffix (h : IsEscaped text) (hrest : rest <:+ text) : IsEscaped rest where
  no_mark c hc := h.no_mark c (hrest.mem hc)
  begins_entity after hafter := h.begins_entity after (hafter.trans hrest)

theorem exists_eq_append (h : IsEscaped text) (hne : text ≠ []) :
    ∃ c rest, text = escapeChar c ++ rest := by
  obtain ⟨d, more, rfl⟩ := List.exists_cons_of_ne_nil hne
  by_cases hamp : d = '&'
  · subst hamp
    obtain ⟨entity, hentity, rest, hrest⟩ := h.begins_entity more (List.suffix_refl _)
    rw [entities_eq] at hentity
    obtain ⟨c, _, rfl⟩ := List.mem_map.mp hentity
    exact ⟨c, rest, hrest.symm⟩
  · have hmark := h.no_mark d List.mem_cons_self
    have hplain : d ∉ specials := by
      rw [specials, List.mem_cons, not_or]
      exact ⟨hamp, of_decide_eq_false hmark⟩
    exact ⟨d, more, by rw [escapeChar_of_not_mem hplain, List.singleton_append]⟩

theorem exists_flatMap_eq (h : IsEscaped text) :
    ∃ chars : List Char, chars.flatMap escapeChar = text := by
  -- An entity is several characters long, so the induction is on the length.
  induction hlength : text.length using Nat.strong_induction_on generalizing text with
  | h length ih =>
    by_cases hnil : text = []
    · exact ⟨[], hnil.symm⟩
    · obtain ⟨c, rest, rfl⟩ := h.exists_eq_append hnil
      have hshorter : rest.length < length := by
        have hpos := List.length_pos_iff.mpr (escapeChar_ne_nil c)
        rw [List.length_append] at hlength
        omega
      obtain ⟨chars, hchars⟩ := ih _ hshorter (h.of_suffix (List.suffix_append _ _)) rfl
      exact ⟨c :: chars, by rw [List.flatMap_cons, hchars]⟩

end IsEscaped

theorem isEscaped_iff {written : String} :
    IsEscaped written.toList ↔ ∃ text, escape text = written := by
  constructor
  · intro h
    obtain ⟨chars, hchars⟩ := h.exists_flatMap_eq
    exact ⟨.ofList chars, by rw [escape, String.toList_ofList, hchars, String.ofList_toList]⟩
  · rintro ⟨text, rfl⟩
    exact isEscaped_escape text

/-- Nothing is lost: entities are read back, different texts stay different, and texts are escaped
piece by piece. Nothing leaks: what can be written is exactly what holds no markup and no ampersand
outside an entity. -/
theorem escape_loses_and_leaks_nothing :
    (∀ text, unescape (escape text).toList = text.toList) ∧ Function.Injective escape ∧
      (∀ written, IsEscaped written.toList ↔ ∃ text, escape text = written) ∧
      ∀ front back, escape (front ++ back) = escape front ++ escape back :=
  ⟨unescape_escape, escape_injective, fun _ => isEscaped_iff, escape_append⟩

example : escape "&lt;&'" = "&amp;lt;&amp;&#39;" := by decide

end NetworkPortal.Html
