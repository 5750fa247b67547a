import Mathlib.Data.List.Forall2
import NetworkPortal.Menu.Tree

/-! # The menu of a document

What a menu document says is told part by part: which elements of the array are entries, where an
entry has its groups, what the items of a group are, and what an item is called. A part of the wrong
form is absent. The tree of a document shows exactly this, in the order of the document.
-/
namespace NetworkPortal

namespace Json

variable {found : Option Json}

theorem bind_string?_eq_some_iff {text : String} :
    found.bind Json.string? = some text ↔ found = some (.string text) := by
  cases found with
  | none => simp
  | some value => cases value <;> simp [Json.string?]

theorem bind_object?_eq_some_iff {members : List (String × Json)} :
    found.bind Json.object? = some members ↔ found = some (.object members) := by
  cases found with
  | none => simp
  | some value => cases value <;> simp [Json.object?]

theorem bind_string?_eq_none_iff :
    found.bind Json.string? = none ↔ ∀ text, found ≠ some (.string text) := by
  rw [Option.eq_none_iff_forall_ne_some]
  exact forall_congr' fun text => not_congr bind_string?_eq_some_iff

theorem bind_object?_eq_none_iff :
    found.bind Json.object? = none ↔ ∀ members, found ≠ some (.object members) := by
  rw [Option.eq_none_iff_forall_ne_some]
  exact forall_congr' fun members => not_congr bind_object?_eq_some_iff

end Json

namespace Menu

open Json (bind_string?_eq_some_iff bind_string?_eq_none_iff bind_object?_eq_some_iff
  bind_object?_eq_none_iff)

variable {found : Option Json} {document element : Json} {members groups : List (String × Json)}

/-! ## What a document says -/

/-- The members of the object in some place, none if there is no object. -/
inductive MembersAt (found : Option Json) : List (String × Json) → Prop
  | object {members : List (String × Json)} (h : found = some (.object members)) :
      MembersAt found members
  | absent (h : ∀ members, found ≠ some (.object members)) : MembersAt found []

/-- The label of an item: its name, else its address. -/
inductive Labels (href : String) (item : Json) : String → Prop
  | named {name : String} (h : item.get? "name" = some (.string name)) : Labels href item name
  | unnamed (h : ∀ name, item.get? "name" ≠ some (.string name)) : Labels href item href

/-- The groups of an entry: its own, else those of its properties. -/
inductive GroupsAt (element : Json) : List (String × Json) → Prop
  | own {groups : List (String × Json)} (h : element.get? "groups" = some (.object groups)) :
      GroupsAt element groups
  | ofProperties {groups : List (String × Json)}
      (hown : ∀ groups, element.get? "groups" ≠ some (.object groups))
      (h : MembersAt ((element.get? "properties").bind (Json.get? "groups")) groups) :
      GroupsAt element groups

def ShowsItem (item : String × Json) (child : Child) : Prop :=
  ∃ label, Labels item.1 item.2 label ∧ child = .link item.1 item.1 label

structure ShowsGroup (entryName : String) (group : String × Json) (shown : Section) : Prop where
  header : shown.header = group.1
  key : shown.key = entryName ++ "/" ++ group.1
  children : ∃ items links, MembersAt (group.2.get? "items") items ∧
    List.Forall₂ ShowsItem items links ∧ shown.children = links ++ [.divider] ∧
    Child.divider ∉ links

structure ShowsEntry (element : Json) (dropdown : Dropdown) : Prop where
  label : element.get? "name" = some (.string dropdown.label)
  key : dropdown.key = dropdown.label
  sections : ∃ groups, GroupsAt element groups ∧
    List.Forall₂ (ShowsGroup dropdown.label) groups dropdown.sections

/-- An element without a name is passed over. -/
inductive ShowsElements : List Json → List Dropdown → Prop
  | nil : ShowsElements [] []
  | entry {element : Json} {elements : List Json} {dropdown : Dropdown} {menu : List Dropdown}
      (h : ShowsEntry element dropdown) (hrest : ShowsElements elements menu) :
      ShowsElements (element :: elements) (dropdown :: menu)
  | other {element : Json} {elements : List Json} {menu : List Dropdown}
      (h : ∀ name, element.get? "name" ≠ some (.string name))
      (hrest : ShowsElements elements menu) : ShowsElements (element :: elements) menu

inductive ShowsDocument : Json → List Dropdown → Prop
  | array {elements : List Json} {menu : List Dropdown} (h : ShowsElements elements menu) :
      ShowsDocument (.array elements) menu
  | other {document : Json} (h : ∀ elements, document ≠ .array elements) :
      ShowsDocument document []

/-! ## What is read from it -/

theorem membersAt_iff : MembersAt found members ↔ (found.bind Json.object?).getD [] = members := by
  constructor
  · intro h
    cases h with
    | object h => rw [h]; rfl
    | absent h => rw [bind_object?_eq_none_iff.mpr h]; rfl
  · rintro rfl
    cases hbind : found.bind Json.object? with
    | some members => exact .object (bind_object?_eq_some_iff.mp hbind)
    | none => exact .absent (bind_object?_eq_none_iff.mp hbind)

theorem labels_iff {href label : String} {item : Json} :
    Labels href item label ↔ linkName href item = label := by
  rw [linkName]
  constructor
  · intro h
    cases h with
    | named h => rw [h]; rfl
    | unnamed h => rw [bind_string?_eq_none_iff.mpr h]; rfl
  · rintro rfl
    cases hbind : (item.get? "name").bind Json.string? with
    | some name => exact .named (bind_string?_eq_some_iff.mp hbind)
    | none => exact .unnamed (bind_string?_eq_none_iff.mp hbind)

theorem groupsAt_iff : GroupsAt element groups ↔ groupMembers element = groups := by
  rw [groupMembers]
  cases hown : (element.get? "groups").bind Json.object? with
  | some own =>
    have hobject := bind_object?_eq_some_iff.mp hown
    constructor
    · intro h
      cases h with
      | own h => rw [hobject] at h; cases h; rfl
      | ofProperties hnot _ => exact absurd hobject (hnot own)
    · rintro rfl
      exact .own hobject
  | none =>
    have hnot := bind_object?_eq_none_iff.mp hown
    rw [Option.none_or, ← membersAt_iff]
    constructor
    · intro h
      cases h with
      | own h => exact absurd h (hnot groups)
      | ofProperties _ h => exact h
    · exact .ofProperties hnot

theorem forall₂_iff_map_eq {α β : Type} {R : α → β → Prop} {f : α → β}
    (h : ∀ a b, R a b ↔ f a = b) {as : List α} {bs : List β} :
    List.Forall₂ R as bs ↔ as.map f = bs := by
  have hfun : R = fun a b => f a = b := by
    funext a b
    exact propext (h a b)
  rw [hfun, ← List.forall₂_map_left_iff, List.forall₂_eq_eq_eq]

theorem showsItem_iff (item : String × Json) (child : Child) :
    ShowsItem item child ↔ .link item.1 item.1 (linkName item.1 item.2) = child := by
  constructor
  · rintro ⟨label, hlabel, rfl⟩
    rw [labels_iff.mp hlabel]
  · rintro rfl
    exact ⟨_, labels_iff.mpr rfl, rfl⟩

theorem children_ofGroup (entryName header : String) (group : Json) :
    (Section.ofGroup entryName header (Group.ofJson group)).children =
      ((((group.get? "items").bind Json.object?).getD []).map fun item =>
        Child.link item.1 item.1 (linkName item.1 item.2)) ++ [.divider] := by
  rw [Section.ofGroup, Group.ofJson, List.map_map]
  rfl

theorem showsGroup_iff (entryName : String) (group : String × Json) (shown : Section) :
    ShowsGroup entryName group shown ↔
      Section.ofGroup entryName group.1 (Group.ofJson group.2) = shown := by
  constructor
  · intro h
    obtain ⟨items, links, hitems, hlinks, hchildren, _⟩ := h.children
    rw [forall₂_iff_map_eq showsItem_iff] at hlinks
    rw [← membersAt_iff.mp hitems] at hlinks
    obtain ⟨key, header, children⟩ := shown
    obtain ⟨rfl, rfl, rfl⟩ := And.intro h.key (And.intro h.header hchildren)
    rw [← hlinks, ← children_ofGroup entryName group.1 group.2]
    rfl
  · rintro rfl
    refine ⟨rfl, rfl, _, _, membersAt_iff.mpr rfl, (forall₂_iff_map_eq showsItem_iff).mpr rfl,
      children_ofGroup _ _ _, ?_⟩
    simp

def dropdownOf? (element : Json) : Option Dropdown := (Entry.ofJson? element).map .ofEntry

theorem dropdownOf?_of_name {name : String} (h : element.get? "name" = some (.string name)) :
    dropdownOf? element = some ⟨name, name, (groupMembers element).map fun group =>
      Section.ofGroup name group.1 (Group.ofJson group.2)⟩ := by
  rw [dropdownOf?, Entry.ofJson?, h]
  simp only [Option.bind_some, Json.string?, Option.map_some, Dropdown.ofEntry, List.map_map]
  rfl

theorem dropdownOf?_eq_none_iff :
    dropdownOf? element = none ↔ ∀ name, element.get? "name" ≠ some (.string name) := by
  rw [dropdownOf?, Entry.ofJson?, Option.map_eq_none_iff, Option.map_eq_none_iff,
    bind_string?_eq_none_iff]

theorem showsEntry_iff {dropdown : Dropdown} :
    ShowsEntry element dropdown ↔ dropdownOf? element = some dropdown := by
  constructor
  · intro h
    obtain ⟨groups, hgroups, hsections⟩ := h.sections
    rw [forall₂_iff_map_eq (showsGroup_iff dropdown.label), ← groupsAt_iff.mp hgroups] at hsections
    rw [dropdownOf?_of_name h.label, hsections]
    obtain ⟨key, label, sections⟩ := dropdown
    obtain rfl : key = label := h.key
    rfl
  · intro h
    cases hname : (element.get? "name").bind Json.string? with
    | none => cases h.symm.trans (dropdownOf?_eq_none_iff.mpr (bind_string?_eq_none_iff.mp hname))
    | some name =>
      have hstring := bind_string?_eq_some_iff.mp hname
      obtain rfl := Option.some.inj ((dropdownOf?_of_name hstring).symm.trans h)
      refine ⟨hstring, rfl, groupMembers element, groupsAt_iff.mpr rfl, ?_⟩
      exact (forall₂_iff_map_eq (showsGroup_iff name)).mpr rfl

theorem showsElements_iff {elements : List Json} {menu : List Dropdown} :
    ShowsElements elements menu ↔ elements.filterMap dropdownOf? = menu := by
  constructor
  · intro h
    induction h with
    | nil => rfl
    | entry h _ ih => rw [List.filterMap_cons_some (showsEntry_iff.mp h), ih]
    | other h _ ih => rw [List.filterMap_cons_none (dropdownOf?_eq_none_iff.mpr h), ih]
  · rintro rfl
    induction elements with
    | nil => exact .nil
    | cons element rest ih =>
      cases hdropdown : dropdownOf? element with
      | none =>
        rw [List.filterMap_cons_none hdropdown]
        exact .other (dropdownOf?_eq_none_iff.mp hdropdown) ih
      | some dropdown =>
        rw [List.filterMap_cons_some hdropdown]
        exact .entry (showsEntry_iff.mpr hdropdown) ih

theorem tree_ofJson (document : Json) :
    tree (ofJson document) = (document.array?.getD []).filterMap dropdownOf? := by
  rw [tree, ofJson, List.map_filterMap]
  rfl

theorem showsDocument_iff {menu : List Dropdown} :
    ShowsDocument document menu ↔ tree (ofJson document) = menu := by
  rw [tree_ofJson]
  constructor
  · intro h
    cases h with
    | array h => exact showsElements_iff.mp h
    | other h => cases document with
      | array elements => exact absurd rfl (h elements)
      | _ => rfl
  · rintro rfl
    cases document with
    | array elements => exact .array (showsElements_iff.mpr rfl)
    | _ => exact .other (by simp)

/-- The tree of a document shows what the document says and nothing else, and the elements of an
array are shown one by one, whatever stands next to them. -/
theorem tree_shows_document :
    (∀ document menu, ShowsDocument document menu ↔ tree (ofJson document) = menu) ∧
    ∀ front back : List Json, tree (ofJson (.array (front ++ back))) =
      tree (ofJson (.array front)) ++ tree (ofJson (.array back)) := by
  constructor
  · intro document menu
    exact showsDocument_iff
  · intro front back
    rw [tree_ofJson, tree_ofJson, tree_ofJson]
    exact List.filterMap_append

example : tree (ofJson (.array [.string "no entry", .object [("groups", .object [])],
    .object [("name", .string "IPAM"), ("groups", .null), ("properties", .object [("groups",
      .object [("Empty", .null), ("Links", .object [("items", .object [("/a/", .null)])])])])]])) =
    [⟨"IPAM", "IPAM", [⟨"IPAM/Empty", "Empty", [.divider]⟩,
      ⟨"IPAM/Links", "Links", [.link "/a/" "/a/" "/a/", .divider]⟩]⟩] := by
  decide +kernel

end Menu

end NetworkPortal
