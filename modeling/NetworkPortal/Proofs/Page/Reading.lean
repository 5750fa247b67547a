import NetworkPortal.Page.Listing
import NetworkPortal.Page.Navigation
import NetworkPortal.Proofs.Html.Parts

/-! # What pages are made of, read back

The navigation bar, a table of rows and a list of resources are written as trees of elements in which
every text has a place of its own. So what they were made of can be read off them: the whole menu, and
of a row and of an item all that is shown.
-/
namespace NetworkPortal

open Html (partsAll parts_eq_of_write_eq partsAll_eq_of_writeAll_eq forall₂_of_partsAll_map_eq
  eq_of_partsAll_map_eq)

def Rendered.items? : Rendered → Option (List String)
  | .list items => some items
  | _ => none

theorem Rendered.html_of_items?_eq_none {rendered : Rendered} (h : rendered.items? = none) :
    rendered.html = .text rendered.display := by
  cases rendered with
  | list items => cases h
  | _ => rfl

theorem Rendered.eq_list_of_items? {rendered : Rendered} {items : List String}
    (h : rendered.items? = some items) : rendered = .list items := by
  cases rendered with
  | list items' => rw [Option.some.inj h]
  | _ => cases h

namespace Page

namespace Navigation

theorem eq_of_parts_childHtml {child child' : Menu.Child}
    (h : (childHtml child).parts = (childHtml child').parts) : child = child' := by
  cases child with
  | divider =>
    cases child' with
    | divider => rfl
    | link key href label => simp [childHtml] at h
  | link key href label =>
    cases child' with
    | divider => simp [childHtml] at h
    | link key' href' label' =>
      obtain ⟨⟨rfl, rfl⟩, rfl⟩ := by simpa [childHtml] using h
      rfl

theorem eq_of_parts_sectionHtml {group group' : Menu.Section}
    (h : (sectionHtml group).parts = (sectionHtml group').parts) : group = group' := by
  obtain ⟨key, header, children⟩ := group
  obtain ⟨key', header', children'⟩ := group'
  obtain ⟨rfl, rfl, hchildren⟩ := by simpa [sectionHtml] using h
  have hone (child : Menu.Child) : ∃ part, (childHtml child).parts = [part] := by
    cases child <;> exact ⟨_, Html.parts_element _ _ _⟩
  rw [eq_of_partsAll_map_eq hone (fun _ _ => eq_of_parts_childHtml) hchildren]

theorem eq_of_parts_dropdownHtml {dropdown dropdown' : Menu.Dropdown}
    (h : (dropdownHtml dropdown).parts = (dropdownHtml dropdown').parts) :
    dropdown = dropdown' := by
  obtain ⟨key, label, sections⟩ := dropdown
  obtain ⟨key', label', sections'⟩ := dropdown'
  obtain ⟨rfl, rfl, hsections⟩ := by simpa [dropdownHtml] using h
  rw [eq_of_partsAll_map_eq (fun _ => ⟨_, Html.parts_element _ _ _⟩)
    (fun _ _ => eq_of_parts_sectionHtml) hsections]

theorem isReadable_childHtml (child : Menu.Child) : (childHtml child).IsReadable := by
  cases child <;> simp [childHtml, Html.isName, Html.isNameChar]

theorem isReadable_html (navigation : Navigation) : navigation.html.IsReadable := by
  cases navigation with
  | failed => simp [html, alert, Html.isName, Html.isNameChar]
  | loaded dropdowns =>
    simp [html, brand, dropdownHtml, sectionHtml, isReadable_childHtml, Html.isName,
      Html.isNameChar]

/-- The navigation bar tells what is known of the menu. -/
theorem write_html_injective :
    Function.Injective fun navigation : Navigation => navigation.html.write := by
  intro navigation navigation' h
  have hparts := parts_eq_of_write_eq (isReadable_html navigation) (isReadable_html navigation') h
  cases navigation with
  | failed =>
    cases navigation' with
    | failed => rfl
    | loaded dropdowns => simp [html, alert] at hparts
  | loaded dropdowns =>
    cases navigation' with
    | failed => simp [html, alert] at hparts
    | loaded dropdowns' =>
      have hdropdowns : partsAll (dropdowns.map dropdownHtml) =
          partsAll (dropdowns'.map dropdownHtml) := by simpa [html] using hparts
      rw [eq_of_partsAll_map_eq (fun _ => ⟨_, Html.parts_element _ _ _⟩)
        (fun _ _ => eq_of_parts_dropdownHtml) hdropdowns]

end Navigation

/-! ## Tables -/

/-- Two rows show the same: the same key and label, and lists of the same items or the same text. -/
structure ShownAlike (row row' : Row) : Prop where
  key : row.key = row'.key
  label : row.label = row'.label
  items : row.rendered.items? = row'.rendered.items?
  text : row.rendered.items? = none → row.rendered.display = row'.rendered.display

theorem isReadable_tableElement {lines : List Html} (h : ∀ line ∈ lines, line.IsReadable) :
    (tableElement lines).IsReadable := by
  simpa [tableElement, Html.isName, Html.isNameChar] using h

theorem parts_html_of_items? {rendered : Rendered} {items : List String}
    (h : rendered.items? = some items) :
    rendered.html.parts = [.element "ul" [("class", "list-unstyled")]
      (partsAll (items.map fun item => .element "li" [] [.text item]))] := by
  rw [Rendered.eq_list_of_items? h]
  simp [Rendered.html]

theorem items?_eq_of_parts_html {rendered rendered' : Rendered}
    (h : rendered.html.parts = rendered'.html.parts) :
    rendered.items? = rendered'.items? ∧
      (rendered.items? = none → rendered.display = rendered'.display) := by
  cases hitems : rendered.items? with
  | none =>
    rw [Rendered.html_of_items?_eq_none hitems] at h
    cases hitems' : rendered'.items? with
    | none =>
      rw [Rendered.html_of_items?_eq_none hitems'] at h
      exact ⟨rfl, fun _ => by simpa using h⟩
    | some items' => simp [parts_html_of_items? hitems'] at h
  | some items =>
    rw [parts_html_of_items? hitems] at h
    cases hitems' : rendered'.items? with
    | none => simp [Rendered.html_of_items?_eq_none hitems', eq_comm] at h
    | some items' =>
      rw [parts_html_of_items? hitems'] at h
      have hlist : partsAll (items.map fun item => .element "li" [] [.text item]) =
          partsAll (items'.map fun item => .element "li" [] [.text item]) := by simpa using h
      have hsame := eq_of_partsAll_map_eq (fun _ => ⟨_, Html.parts_element _ _ _⟩)
        (fun _ _ h => by simpa using h) hlist
      exact ⟨by rw [hsame], fun hnone => by cases hnone⟩

theorem shownAlike_of_parts {row row' : Row} (h : (rowLine row).parts = (rowLine row').parts) :
    ShownAlike row row' := by
  obtain ⟨hkey, hlabel, hcell⟩ : row.key = row'.key ∧ row.label = row'.label ∧
      row.rendered.html.parts = row'.rendered.html.parts := by simpa [rowLine] using h
  obtain ⟨hitems, htext⟩ := items?_eq_of_parts_html hcell
  exact ⟨hkey, hlabel, hitems, htext⟩

theorem ShownAlike.rowLine_eq {row row' : Row} (h : ShownAlike row row') :
    rowLine row = rowLine row' := by
  have hcell : row.rendered.html = row'.rendered.html := by
    cases hitems : row.rendered.items? with
    | none =>
      have hitems' := h.items.symm.trans hitems
      rw [Rendered.html_of_items?_eq_none hitems, Rendered.html_of_items?_eq_none hitems',
        h.text hitems]
    | some items =>
      rw [Rendered.eq_list_of_items? hitems,
        Rendered.eq_list_of_items? (h.items.symm.trans hitems)]
  rw [rowLine, rowLine, h.key, h.label, hcell]

theorem isReadable_rowsTable (rows : List Row) : (rowsTable rows).IsReadable := by
  refine isReadable_tableElement fun line hline => ?_
  obtain ⟨row, _, rfl⟩ := List.mem_map.mp hline
  cases hrendered : row.rendered <;>
    simp [rowLine, hrendered, Rendered.html, Html.isName, Html.isNameChar]

theorem write_rowsTable_inj {rows rows' : List Row} :
    (rowsTable rows).write = (rowsTable rows').write ↔ List.Forall₂ ShownAlike rows rows' := by
  constructor
  · intro h
    have hparts := parts_eq_of_write_eq (isReadable_rowsTable rows) (isReadable_rowsTable rows') h
    have hlines : partsAll (rows.map rowLine) = partsAll (rows'.map rowLine) := by
      simpa [rowsTable, tableElement] using hparts
    exact forall₂_of_partsAll_map_eq (fun _ => ⟨_, Html.parts_element _ _ _⟩)
      (fun _ _ => shownAlike_of_parts) hlines
  · intro h
    have hlines : rows.map rowLine = rows'.map rowLine := by
      induction h with
      | nil => rfl
      | cons hrow _ ih => rw [List.map_cons, List.map_cons, hrow.rowLine_eq, ih]
    rw [rowsTable, rowsTable, hlines]

/-! ## Lists of resources -/

theorem eq_of_parts_cell {item item' : ListItem} (h : item.cell.parts = item'.cell.parts) :
    item = item' := by
  obtain ⟨label, href⟩ := item
  obtain ⟨label', href'⟩ := item'
  cases href with
  | none =>
    cases href' with
    | none =>
      obtain rfl := by simpa [ListItem.cell] using h
      rfl
    | some address' => simp [ListItem.cell] at h
  | some address =>
    cases href' with
    | none => simp [ListItem.cell, eq_comm] at h
    | some address' =>
      obtain ⟨rfl, rfl⟩ := by simpa [ListItem.cell] using h
      rfl

theorem eq_of_parts_line {item item' : ListItem} (h : item.line.parts = item'.line.parts) :
    item = item' :=
  eq_of_parts_cell (by simpa [ListItem.line] using h)

theorem isReadable_listBody (title : String) (items : List ListItem) :
    ∀ node ∈ listBody title items, node.IsReadable := by
  have hline (item : ListItem) : item.line.IsReadable := by
    cases hhref : item.href <;>
      simp [ListItem.line, ListItem.cell, hhref, Html.isName, Html.isNameChar]
  have hlines : ∀ line ∈ items.map ListItem.line, line.IsReadable := by simp [hline]
  have hheading : (heading title).IsReadable := by simp [heading, Html.isName, Html.isNameChar]
  have hmuted : (muted "No objects found.").IsReadable := by
    simp [muted, Html.isName, Html.isNameChar]
  rw [listBody]
  cases items with
  | nil => simp [hheading, hmuted]
  | cons item rest => simpa [hheading] using isReadable_tableElement hlines

theorem writeAll_listBody_inj {title title' : String} {items items' : List ListItem}
    (h : Html.writeAll (listBody title items) = Html.writeAll (listBody title' items')) :
    title = title' ∧ items = items' := by
  have hparts := partsAll_eq_of_writeAll_eq (isReadable_listBody title items)
    (isReadable_listBody title' items') h
  cases items with
  | nil =>
    cases items' with
    | nil =>
      obtain rfl := by simpa [listBody, heading] using hparts
      exact ⟨rfl, rfl⟩
    | cons item' rest' => simp [listBody, heading, muted, tableElement] at hparts
  | cons item rest =>
    cases items' with
    | nil => simp [listBody, heading, muted, tableElement] at hparts
    | cons item' rest' =>
      obtain ⟨rfl, hlines⟩ : title = title' ∧ partsAll ((item :: rest).map ListItem.line) =
          partsAll ((item' :: rest').map ListItem.line) := by
        simpa [listBody, heading, tableElement] using hparts
      exact ⟨rfl, eq_of_partsAll_map_eq (fun _ => ⟨_, Html.parts_element _ _ _⟩)
        (fun _ _ => eq_of_parts_line) hlines⟩

/-- Tables of rows are written alike exactly if they have as many rows and these show the same one by
one, and lists of resources exactly if they have the same title and the same items. -/
theorem tables_determine_data :
    (∀ rows rows' : List Row, (rowsTable rows).write = (rowsTable rows').write ↔
      List.Forall₂ ShownAlike rows rows') ∧
    ∀ (title title' : String) (items items' : List ListItem),
      Html.writeAll (listBody title items) = Html.writeAll (listBody title' items') ↔
        title = title' ∧ items = items' := by
  refine ⟨fun rows rows' => write_rowsTable_inj, fun title title' items items' => ?_⟩
  constructor
  · exact writeAll_listBody_inj
  · rintro ⟨rfl, rfl⟩
    rfl

end Page

end NetworkPortal
