import Mathlib.Data.List.Infix
import NetworkPortal.Html.Basic

/-! # What is written for a list of trees

Trees are written one after the other, so each of them stands in what is written for all.
-/
namespace NetworkPortal.Html

theorem writeAll_eq_join (nodes : List Html) : writeAll nodes = String.join (nodes.map write) := by
  induction nodes with
  | nil => rfl
  | cons node rest ih => rw [writeAll, List.map_cons, String.join_cons, ih]

theorem write_infix_writeAll {node : Html} {nodes : List Html} (h : node ∈ nodes) :
    node.write.toList <:+: (writeAll nodes).toList := by
  induction nodes with
  | nil => exact absurd h List.not_mem_nil
  | cons first rest ih =>
    rw [writeAll, String.toList_append]
    rcases List.mem_cons.mp h with rfl | hrest
    · exact (List.prefix_append _ _).isInfix
    · exact (ih hrest).trans (List.suffix_append _ _).isInfix

theorem write_infix_element {node : Html} {children : List Html} (name : String)
    (attributes : List (String × String)) (h : node ∈ children) :
    node.write.toList <:+: (Html.element name attributes children).write.toList := by
  have hchildren := write_infix_writeAll h
  have hbetween : (Html.element name attributes children).write.toList =
      ("<" ++ name ++ writeAttributes attributes ++ ">").toList ++ (writeAll children).toList ++
        ("</" ++ name ++ ">").toList := by
    rw [write]
    simp only [String.toList_append, List.append_assoc]
  rw [hbetween]
  exact hchildren.trans (List.infix_append _ _ _)

end NetworkPortal.Html
