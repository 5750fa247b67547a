import Mathlib.Logic.Function.Basic
import NetworkPortal.Html.Basic

/-! # Reading escaped text back

An entity stands for one character and no character but the ampersand begins one, so a reader that
replaces entities from left to right gets back what was escaped.
-/
namespace NetworkPortal.Html

/-- A text with the five entities in it replaced by their characters. -/
def unescape : List Char → List Char
  | '&' :: 'a' :: 'm' :: 'p' :: ';' :: rest => '&' :: unescape rest
  | '&' :: 'l' :: 't' :: ';' :: rest => '<' :: unescape rest
  | '&' :: 'g' :: 't' :: ';' :: rest => '>' :: unescape rest
  | '&' :: 'q' :: 'u' :: 'o' :: 't' :: ';' :: rest => '"' :: unescape rest
  | '&' :: '#' :: '3' :: '9' :: ';' :: rest => '\x27' :: unescape rest
  | c :: rest => c :: unescape rest
  | [] => []

theorem unescape_cons_of_ne {c : Char} (hc : c ≠ '&') (rest : List Char) :
    unescape (c :: rest) = c :: unescape rest := by
  rw [unescape]
  all_goals
    rintro _ rfl
    exact absurd rfl hc

def specials : List Char := ['&', '<', '>', '"', '\x27']

theorem mem_specials_iff {c : Char} :
    c ∈ specials ↔ c = '&' ∨ c = '<' ∨ c = '>' ∨ c = '"' ∨ c = '\x27' := by
  simp only [specials, List.mem_cons, List.not_mem_nil, or_false]

theorem escapeChar_of_not_mem {c : Char} (h : c ∉ specials) : escapeChar c = [c] := by
  simp only [mem_specials_iff, not_or] at h
  obtain ⟨hamp, hlt, hgt, hquot, hapos⟩ := h
  rw [escapeChar, if_neg hamp, if_neg hlt, if_neg hgt, if_neg hquot, if_neg hapos]

theorem unescape_escapeChar_append (c : Char) (rest : List Char) :
    unescape (escapeChar c ++ rest) = c :: unescape rest := by
  by_cases hmem : c ∈ specials
  · rcases mem_specials_iff.mp hmem with rfl | rfl | rfl | rfl | rfl
    all_goals rfl
  · have hamp : c ≠ '&' := fun heq => hmem (heq ▸ List.mem_cons_self)
    rw [escapeChar_of_not_mem hmem, List.singleton_append, unescape_cons_of_ne hamp]

theorem escapeChar_ne_nil (c : Char) : escapeChar c ≠ [] := by
  intro hnil
  have hread := unescape_escapeChar_append c []
  rw [hnil] at hread
  cases hread

theorem unescape_escape (text : String) : unescape (escape text).toList = text.toList := by
  rw [escape, String.toList_ofList]
  induction text.toList with
  | nil => rfl
  | cons c rest ih => rw [List.flatMap_cons, unescape_escapeChar_append, ih]

theorem escape_injective : Function.Injective escape := by
  intro a b h
  apply String.toList_inj.mp
  rw [← unescape_escape a, h, unescape_escape]

theorem escape_append (a b : String) : escape (a ++ b) = escape a ++ escape b := by
  apply String.toList_inj.mp
  simp only [escape, String.toList_append, String.toList_ofList, List.flatMap_append]

theorem flatMap_escapeChar_eq_self {chars : List Char} (h : ∀ c ∈ chars, c ∉ specials) :
    chars.flatMap escapeChar = chars := by
  induction chars with
  | nil => rfl
  | cons c rest ih =>
    obtain ⟨hc, hrest⟩ := List.forall_mem_cons.mp h
    rw [List.flatMap_cons, escapeChar_of_not_mem hc, ih hrest]
    rfl

theorem escape_eq_self {text : String} (h : ∀ c ∈ text.toList, c ∉ specials) :
    escape text = text := by
  rw [escape, flatMap_escapeChar_eq_self h, String.ofList_toList]

end NetworkPortal.Html
