import NetworkPortal.Field.Rendered
import NetworkPortal.Proofs.Html.Skeleton
import NetworkPortal.Proofs.Html.Write
import NetworkPortal.Proofs.Text.Pieces

/-! # Lists in lists

A field shows the texts of its leaves, joined from left to right, however deep its lists are nested.
This holds as long as no list in a list is empty: the line of an empty list is a text that no leaf
has. In HTML each element of the outermost list is a list item of its own.
-/
namespace NetworkPortal.Field

open Html (escape)
open Text (occurrences occurrences_cons_append)

/-! ## Leaves -/

mutual

/-- What a field consists of when all lists in it are opened, from left to right. -/
def leaves : Field → List Field
  | .list items => leavesOfItems items
  | field => [field]

def leavesOfItems : List Field → List Field
  | [] => []
  | item :: rest => item.leaves ++ leavesOfItems rest

end

/-- A field is an element of a list, or stands at some depth inside an element. -/
inductive Within (inner : Field) : Field → Prop
  | element {items : List Field} (h : inner ∈ items) : Within inner (.list items)
  | deeper {items : List Field} {item : Field} (h : item ∈ items) (hitem : Within inner item) :
    Within inner (.list items)

def leafLine (field : Field) : String :=
  ", ".intercalate (field.leaves.map fun leaf => leaf.render.display)

variable {field item : Field} {items : List Field}

theorem leaves_list (items : List Field) : (Field.list items).leaves = items.flatMap leaves := by
  rw [leaves]
  induction items with
  | nil => rfl
  | cons item rest ih => rw [leavesOfItems, ih, List.flatMap_cons]

theorem within_list_iff {inner : Field} :
    Within inner (.list items) ↔ ∃ item ∈ items, inner = item ∨ Within inner item := by
  constructor
  · intro h
    cases h with
    | element h => exact ⟨inner, h, .inl rfl⟩
    | deeper h hitem => exact ⟨_, h, .inr hitem⟩
  · rintro ⟨item, hitem, rfl | hinner⟩
    · exact .element hitem
    · exact .deeper hitem hinner

theorem not_within_of_ne_list {inner : Field} (h : ∀ items, field ≠ .list items) :
    ¬ Within inner field := by
  intro hwithin
  cases hwithin with
  | element _ => exact h _ rfl
  | deeper _ _ => exact h _ rfl

theorem not_within_of_mem (h : ¬ Within (.list []) (.list items)) (hitem : item ∈ items) :
    item ≠ .list [] ∧ ¬ Within (.list []) item := by
  constructor
  · rintro rfl
    exact h (.element hitem)
  · intro hwithin
    exact h (.deeper hitem hwithin)

theorem leaves_ne_nil (field : Field) (hfield : field ≠ .list [])
    (h : ¬ Within (.list []) field) : field.leaves ≠ [] := by
  match field with
  | .list [] => exact absurd rfl hfield
  | .list (first :: rest) =>
    obtain ⟨hfirst, hwithin⟩ := not_within_of_mem h List.mem_cons_self
    rw [leaves_list, List.flatMap_cons]
    exact List.append_ne_nil_of_left_ne_nil (leaves_ne_nil first hfirst hwithin) _
  | .empty | .scalar _ | .reference _ _ | .boolean _ => exact List.cons_ne_nil _ _

/-- Lines joined are all their parts joined, unless a line has no parts. -/
theorem intercalate_map_intercalate {α : Type} {separator : String} {parts : α → List String}
    {lines : List α} (h : ∀ line ∈ lines, parts line ≠ []) :
    separator.intercalate (lines.map fun line => separator.intercalate (parts line)) =
      separator.intercalate (lines.flatMap parts) := by
  induction lines with
  | nil => rfl
  | cons line rest ih =>
    obtain ⟨hline, hrest⟩ := List.forall_mem_cons.mp h
    cases rest with
    | nil => simp
    | cons next more =>
      have hparts : (next :: more).flatMap parts ≠ [] := by
        rw [List.flatMap_cons]
        exact List.append_ne_nil_of_left_ne_nil (hrest next List.mem_cons_self) _
      rw [List.flatMap_cons, String.intercalate_append_of_ne_nil hline hparts, ← ih hrest]
      simp only [List.map_cons, String.intercalate_cons_cons]

theorem inline_eq_leafLine (field : Field) (h : ¬ Within (.list []) field) :
    field.inline = field.leafLine := by
  match field with
  | .list items =>
    have hitems : items.map inline = items.map leafLine :=
      List.map_congr_left fun item hitem =>
        inline_eq_leafLine item (not_within_of_mem h hitem).2
    -- Every element has a leaf, so no separator stands beside an element that shows nothing.
    have hparts : ∀ item ∈ items, item.leaves.map (fun leaf => leaf.render.display) ≠ [] := by
      intro item hitem
      obtain ⟨hne, hwithin⟩ := not_within_of_mem h hitem
      exact mt List.map_eq_nil_iff.mp (leaves_ne_nil item hne hwithin)
    rw [inline, inlineAll_eq_map, hitems, leafLine, leaves_list, List.map_flatMap]
    exact intercalate_map_intercalate hparts
  | .empty | .scalar _ | .reference _ _ | .boolean _ => exact String.intercalate_singleton.symm

theorem render_list (h : ¬ Within (.list []) (.list items)) :
    (Field.list items).render = .list (items.map leafLine) := by
  rw [render]
  refine congrArg _ (List.map_congr_left fun item hitem => ?_)
  exact inline_eq_leafLine item (not_within_of_mem h hitem).2

/-! ## List items -/

def itemText (text : String) : String := "<li>" ++ escape text ++ "</li>"

theorem write_item (text : String) :
    (Html.element "li" [] [.text text]).write = itemText text := by
  simp only [Html.write, Html.writeAll, Html.writeAttributes, itemText]
  apply String.toList_inj.mp
  simp

theorem write_html_list (texts : List String) :
    (Rendered.list texts).html.write =
      "<ul class=\"list-unstyled\">" ++ String.join (texts.map itemText) ++ "</ul>" := by
  have hclass : escape "list-unstyled" = "list-unstyled" := by decide +kernel
  have hitems : (texts.map fun text => Html.element "li" [] [.text text]).map Html.write =
      texts.map itemText := by
    rw [List.map_map]
    exact List.map_congr_left fun text _ => write_item text
  simp only [Rendered.html, Html.write, Html.writeAttributes, Html.writeAll_eq_join, hclass, hitems]
  apply String.toList_inj.mp
  simp

theorem bracket_not_mem_escape (text : String) : '<' ∉ (escape text).toList := by
  intro h
  cases Html.isMark_of_mem_escape h

theorem occurrences_items (texts : List String) (rest : List Char) :
    occurrences "<li>".toList ((String.join (texts.map itemText)).toList ++ rest) =
      occurrences "<li>".toList rest + texts.length := by
  have htag : "<li>".toList = '<' :: "li>".toList := rfl
  induction texts with
  | nil => simp
  | cons text more ih =>
    have hitem : (String.join ((text :: more).map itemText)).toList ++ rest =
        '<' :: ("li>".toList ++ (escape text).toList ++ '<' :: ("/li>".toList ++
          ((String.join (more.map itemText)).toList ++ rest))) := by
      simp [String.join_cons, itemText]
    have htext : '<' ∉ "li>".toList ++ (escape text).toList := by
      rw [List.mem_append, not_or]
      exact ⟨by decide, bracket_not_mem_escape text⟩
    rw [htag] at ih ⊢
    rw [hitem, occurrences_cons_append htext, occurrences_cons_append (by decide), ih,
      List.length_cons, Nat.add_assoc, Nat.add_assoc]
    -- Of the two brackets of an item only the first begins a start tag.
    rfl

theorem occurrences_write_html_list (texts : List String) :
    occurrences "<li>".toList (Rendered.list texts).html.write.toList = texts.length := by
  have hlist : (Rendered.list texts).html.write.toList =
      '<' :: ("ul class=\"list-unstyled\">".toList ++
        ((String.join (texts.map itemText)).toList ++ "</ul>".toList)) := by
    simp [write_html_list]
  have htag : "<li>".toList = '<' :: "li>".toList := rfl
  have hend : occurrences "<li>".toList "</ul>".toList = 0 := by decide +kernel
  rw [hlist, htag, occurrences_cons_append (by decide), ← htag, occurrences_items, hend,
    Nat.zero_add]
  rfl

/-- A field in which no list in a list is empty shows its leaves from left to right. If it is a list
then it has an item for each element, with the leaves of that element, and is written with one list
item for each, which holds the escaped text. -/
theorem shows_leaves (field : Field) (h : ¬ Within (.list []) field) :
    field.render.display = field.leafLine ∧
    ∀ items, field = .list items →
      field.render = .list (items.map leafLine) ∧
      field.render.html.write = "<ul class=\"list-unstyled\">" ++
        String.join (items.map fun item => "<li>" ++ escape item.leafLine ++ "</li>") ++
          "</ul>" ∧
      occurrences "<li>".toList field.render.html.write.toList = items.length := by
  refine ⟨?_, ?_⟩
  · rw [display_render]
    exact inline_eq_leafLine field h
  · rintro items rfl
    have hrender := render_list h
    refine ⟨hrender, ?_, ?_⟩
    · rw [hrender, write_html_list, List.map_map]
      rfl
    · rw [hrender, occurrences_write_html_list, List.length_map]

/-- A reference, a list of a list, and a text that would be a tag if it were not escaped. -/
def nestedList : Field :=
  .list [.reference "A" none, .list [.list [.scalar "<li>", .empty], .boolean true], .scalar "b"]

theorem nestedList_shows_leaves :
    ¬ Within (.list []) nestedList ∧
    nestedList.render.display = "A, <li>, —, ✅, b" ∧
    nestedList.render = .list ["A", "<li>, —, ✅", "b"] ∧
    occurrences "<li>".toList nestedList.render.html.write.toList = 3 := by
  have hfilled : ¬ Within (.list []) nestedList := by
    simp [nestedList, within_list_iff, not_within_of_ne_list]
  obtain ⟨hdisplay, hlist⟩ := shows_leaves nestedList hfilled
  obtain ⟨hrender, _, hcount⟩ := hlist _ rfl
  refine ⟨hfilled, ?_, ?_, hcount⟩
  · rw [hdisplay]
    decide +kernel
  · rw [hrender]
    decide +kernel

/-- An empty list in a list shows a text that no leaf has. -/
example : (Field.list [.list [], .scalar "a"]).render.display = ", a" ∧
    (Field.list [.list [], .scalar "a"]).leafLine = "a" := by
  decide +kernel

end NetworkPortal.Field
