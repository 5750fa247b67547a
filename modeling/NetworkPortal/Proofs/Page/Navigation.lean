import NetworkPortal.Page.Navigation
import NetworkPortal.Proofs.Html.Escape
import NetworkPortal.Proofs.Html.Write

/-! # The links of the navigation bar

Every item of a menu document becomes a link of the bar, and the bar leads to the address of the
item as it stands there.
-/
namespace NetworkPortal

namespace Menu

/-- An item stands in a document in a group of an entry with a name. -/
inductive HoldsItem : Json → String → Json → Prop
  | intro {elements : List Json} {element group item : Json} {name header href : String}
      {items : List (String × Json)} (helement : element ∈ elements)
      (hname : element.get? "name" = some (.string name))
      (hgroup : (header, group) ∈ groupMembers element)
      (hitems : group.get? "items" = some (.object items)) (hitem : (href, item) ∈ items) :
      HoldsItem (.array elements) href item

variable {document item : Json} {href : String}

theorem exists_link_of_holdsItem (h : HoldsItem document href item) :
    ∃ dropdown ∈ tree (ofJson document), ∃ group ∈ dropdown.sections,
      Child.link href href (linkName href item) ∈ group.children := by
  cases h with | @intro elements element group _ name header _ items helement hname hgroup hitems hitem =>
  have hentry : Entry.ofJson? element = some
      ⟨name, (groupMembers element).map fun member => (member.1, Group.ofJson member.2)⟩ := by
    rw [Entry.ofJson?, hname]
    rfl
  have hlink : (href, linkName href item) ∈ (Group.ofJson group).links := by
    rw [Group.ofJson, hitems]
    exact List.mem_map.mpr ⟨(href, item), hitem, rfl⟩
  refine ⟨_, List.mem_map.mpr ⟨_, List.mem_filterMap.mpr ⟨element, helement, hentry⟩, rfl⟩,
    Section.ofGroup name header (Group.ofJson group), ?_, ?_⟩
  · rw [Dropdown.ofEntry, List.map_map]
    exact List.mem_map.mpr ⟨(header, group), hgroup, rfl⟩
  · exact List.mem_append_left _ (List.mem_map.mpr ⟨_, hlink, rfl⟩)

end Menu

namespace Page.Navigation

/-- The bar has a link to an address under a label, with the address written as it is. -/
def HasLink (navigation : Navigation) (href label : String) : Prop :=
  ("<a class=\"dropdown-item\" data-key=\"" ++ href ++ "\" href=\"" ++ href ++ "\">" ++
    Html.escape label ++ "</a>").toList <:+: navigation.html.write.toList

theorem hasLink_of_mem {menu : List Menu.Dropdown} {dropdown : Menu.Dropdown}
    {group : Menu.Section} {href label : String} (hdropdown : dropdown ∈ menu)
    (hgroup : group ∈ dropdown.sections) (hlink : .link href href label ∈ group.children)
    (hhref : Html.escape href = href) : HasLink (.loaded menu) href label := by
  have hwritten : (childHtml (.link href href label)).write =
      "<a class=\"dropdown-item\" data-key=\"" ++ href ++ "\" href=\"" ++ href ++ "\">" ++
        Html.escape label ++ "</a>" := by
    have hclass : Html.escape "dropdown-item" = "dropdown-item" := by decide +kernel
    simp only [childHtml, Html.write, Html.writeAll, Html.writeAttributes, hhref, hclass]
    apply String.toList_inj.mp
    simp
  have hchild : (childHtml (.link href href label)).write.toList <:+:
      (sectionHtml group).write.toList :=
    Html.write_infix_element _ _ (List.mem_cons_of_mem _ (List.mem_map_of_mem hlink))
  have hlist : (sectionHtml group).write.toList <:+:
      (Html.element "div" [("class", "dropdown-menu")]
        (dropdown.sections.map sectionHtml)).write.toList :=
    Html.write_infix_element _ _ (List.mem_map_of_mem hgroup)
  have hsection : (sectionHtml group).write.toList <:+: (dropdownHtml dropdown).write.toList :=
    hlist.trans (Html.write_infix_element _ _ (List.mem_cons_of_mem _ List.mem_cons_self))
  have hbar : (dropdownHtml dropdown).write.toList <:+:
      (Navigation.loaded menu).html.write.toList :=
    Html.write_infix_element _ _ (List.mem_cons_of_mem _ (List.mem_map_of_mem hdropdown))
  rw [HasLink, ← hwritten]
  exact (hchild.trans hsection).trans hbar

theorem hasLink_of_holdsItem {document item : Json} {href : String}
    (h : Menu.HoldsItem document href item) (hhref : Html.escape href = href) :
    HasLink (.loaded (Menu.tree (Menu.ofJson document))) href (Menu.linkName href item) := by
  obtain ⟨dropdown, hdropdown, group, hgroup, hlink⟩ := Menu.exists_link_of_holdsItem h
  exact hasLink_of_mem hdropdown hgroup hlink hhref

end Page.Navigation

end NetworkPortal
