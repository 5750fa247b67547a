import Mathlib.Data.List.Basic
import NetworkPortal.Html.Basic

/-! # Skeletons

The skeleton of a text is what a reader of HTML takes for markup: angle brackets and quotation
marks. Written HTML has the skeleton of its outline, in which every text and every attribute value
is left out, so texts and values never add markup.
-/
namespace NetworkPortal.Html

def isMark (c : Char) : Bool := c ∈ ['<', '>', '"', '\x27']

def skeleton (text : String) : List Char := text.toList.filter isMark

@[simp] theorem skeleton_append (a b : String) : skeleton (a ++ b) = skeleton a ++ skeleton b := by
  rw [skeleton, String.toList_append, List.filter_append]
  rfl

theorem any_isMark_escapeChar (c : Char) : (escapeChar c).any isMark = false := by
  unfold escapeChar
  split_ifs with hamp hlt hgt hquot hapos
  case neg => simp [isMark, hlt, hgt, hquot, hapos]
  all_goals decide

theorem isMark_of_mem_escape {text : String} {c : Char} (h : c ∈ (escape text).toList) :
    isMark c = false := by
  rw [escape, String.toList_ofList] at h
  obtain ⟨d, _, hd⟩ := List.mem_flatMap.mp h
  exact Bool.eq_false_iff.mpr (List.any_eq_false.mp (any_isMark_escapeChar d) c hd)

theorem skeleton_escape (text : String) : skeleton (escape text) = [] := by
  rw [skeleton, List.filter_eq_nil_iff]
  intro c hc
  exact Bool.eq_false_iff.mp (isMark_of_mem_escape hc)

def outlineAttribute (named : String × String) : String × String := (named.1, "")

mutual

/-- The tree without its texts and attribute values. -/
def outline : Html → Html
  | .text _ => .text ""
  | .trusted markup => .trusted markup
  | .element name attributes children =>
    .element name (attributes.map outlineAttribute) (outlineAll children)

def outlineAll : List Html → List Html
  | [] => []
  | node :: rest => node.outline :: outlineAll rest

end

theorem outlineAll_eq_map (nodes : List Html) : outlineAll nodes = nodes.map outline := by
  induction nodes with
  | nil => rfl
  | cons node rest ih => rw [outlineAll, ih, List.map_cons]

@[simp] theorem outline_text (content : String) : outline (.text content) = .text "" := by
  rw [outline]

@[simp] theorem outline_trusted (markup : Markup) :
    outline (.trusted markup) = .trusted markup := by
  rw [outline]

@[simp] theorem outline_element (name : String) (attributes : List (String × String))
    (children : List Html) :
    outline (.element name attributes children) =
      .element name (attributes.map outlineAttribute) (children.map outline) := by
  rw [outline, outlineAll_eq_map]

theorem skeleton_writeAttributes (attributes : List (String × String)) :
    skeleton (writeAttributes (attributes.map outlineAttribute)) =
      skeleton (writeAttributes attributes) := by
  induction attributes with
  | nil => rfl
  | cons named rest ih =>
    simp only [List.map_cons, outlineAttribute, writeAttributes, skeleton_append,
      skeleton_escape, ih]

mutual

/-- Texts and attribute values add nothing to a skeleton. -/
theorem skeleton_write_outline : (node : Html) → skeleton node.outline.write = skeleton node.write
  | .text content => by
    rw [outline, write, write, skeleton_escape, skeleton_escape]
  | .trusted markup => by
    rw [outline]
  | .element name attributes children => by
    simp only [outline, write, skeleton_append, skeleton_writeAttributes attributes,
      skeleton_writeAll_outlineAll children]

theorem skeleton_writeAll_outlineAll :
    (nodes : List Html) → skeleton (writeAll (outlineAll nodes)) = skeleton (writeAll nodes)
  | [] => rfl
  | node :: rest => by
    rw [outlineAll, writeAll, writeAll, skeleton_append, skeleton_append,
      skeleton_write_outline node, skeleton_writeAll_outlineAll rest]

end

theorem skeleton_write_congr {a b : Html} (h : a.outline = b.outline) :
    skeleton a.write = skeleton b.write := by
  rw [← skeleton_write_outline a, h, skeleton_write_outline]

theorem skeleton_writeAll_congr {a b : List Html} (h : a.map outline = b.map outline) :
    skeleton (writeAll a) = skeleton (writeAll b) := by
  rw [← skeleton_writeAll_outlineAll a, outlineAll_eq_map, h, ← outlineAll_eq_map,
    skeleton_writeAll_outlineAll]

end NetworkPortal.Html
