import NetworkPortal.Page.Detail
import NetworkPortal.Page.Layout
import NetworkPortal.Page.Listing
import NetworkPortal.Proofs.Html.Skeleton

/-! # The markup of a page depends on its shape alone

The shape of what a page shows is what is there, not what it says: how many entries, groups and
links a menu has, which items of a list lead somewhere, which fields are lists and of what length.
Two contents of one shape make pages of one skeleton, so no text of the backend adds markup.
-/
namespace NetworkPortal

open Html (outline outlineAttribute outline_text outline_element skeleton skeleton_append
  skeleton_escape)

theorem map_outline_of_shape {α γ : Type} {shape : α → γ} {f : α → Html}
    (hf : ∀ x y, shape x = shape y → outline (f x) = outline (f y)) {xs ys : List α}
    (h : xs.map shape = ys.map shape) : (xs.map f).map outline = (ys.map f).map outline := by
  induction xs generalizing ys with
  | nil =>
    rw [List.map_nil] at h
    rw [List.map_eq_nil_iff.mp h.symm]
  | cons x xs ih =>
    obtain ⟨y, ys, rfl, hy, hys⟩ := List.map_eq_cons_iff.mp h.symm
    simp only [List.map_cons, hf x y hy.symm, ih hys.symm]

namespace Menu

def Child.isLink : Child → Bool
  | .link _ _ _ => true
  | .divider => false

def Section.shape (group : Section) : List Bool := group.children.map Child.isLink

def Dropdown.shape (dropdown : Dropdown) : List (List Bool) := dropdown.sections.map Section.shape

end Menu

def Field.length? : Field → Option ℕ
  | .list items => some items.length
  | _ => none

/-- The tier of a field, and its length if it is a list. -/
def fieldShape (field : String × Field) : Tier × Option ℕ := (Tier.ofKey field.1, field.2.length?)

namespace Page

namespace Navigation

theorem outline_childHtml (a b : Menu.Child) (h : a.isLink = b.isLink) :
    outline (childHtml a) = outline (childHtml b) := by
  cases a with
  | link => cases b with
    | link => simp [childHtml, outlineAttribute]
    | divider => cases h
  | divider => cases b with
    | link => cases h
    | divider => rfl

theorem outline_sectionHtml (a b : Menu.Section) (h : a.shape = b.shape) :
    outline (sectionHtml a) = outline (sectionHtml b) := by
  have hchildren := map_outline_of_shape outline_childHtml h
  simp only [sectionHtml, outline_element, outline_text, outlineAttribute, List.map_cons,
    List.map_nil, hchildren]

theorem outline_dropdownHtml (a b : Menu.Dropdown) (h : a.shape = b.shape) :
    outline (dropdownHtml a) = outline (dropdownHtml b) := by
  have hsections := map_outline_of_shape outline_sectionHtml h
  simp only [dropdownHtml, outline_element, outline_text, outlineAttribute, List.map_cons,
    List.map_nil, hsections]

theorem outline_html {a b : List Menu.Dropdown}
    (h : a.map Menu.Dropdown.shape = b.map Menu.Dropdown.shape) :
    outline (html (.loaded a)) = outline (html (.loaded b)) := by
  have hdropdowns := map_outline_of_shape outline_dropdownHtml h
  simp only [html, outline_element, List.map_cons, hdropdowns]

end Navigation

theorem outline_alert (a b : String) : outline (alert a) = outline (alert b) := by
  simp [alert]

theorem outline_heading (a b : String) : outline (heading a) = outline (heading b) := by
  simp [heading]

theorem outline_tableElement {a b : List Html} (h : a.map outline = b.map outline) :
    outline (tableElement a) = outline (tableElement b) := by
  simp [tableElement, h]

theorem outline_line (a b : ListItem) (h : a.href.isSome = b.href.isSome) :
    outline a.line = outline b.line := by
  obtain ⟨label, href⟩ := a
  obtain ⟨label', href'⟩ := b
  cases href with
  | none => cases href' with
    | none => simp [ListItem.line, ListItem.cell]
    | some => cases h
  | some => cases href' with
    | none => cases h
    | some => simp [ListItem.line, ListItem.cell, outlineAttribute]

theorem outline_listBody (title title' : String) {a b : List ListItem}
    (h : a.map (·.href.isSome) = b.map (·.href.isSome)) :
    (listBody title a).map outline = (listBody title' b).map outline := by
  have hlines := map_outline_of_shape outline_line h
  have hempty : a.isEmpty = b.isEmpty := by
    simpa using congrArg List.isEmpty h
  simp only [listBody, List.map_cons, List.map_nil, outline_heading title title', hempty]
  split
  · rfl
  · rw [outline_tableElement hlines]

theorem outline_mountLine (a b : Route.Mount) : outline (mountLine a) = outline (mountLine b) := by
  simp [mountLine, outlineAttribute]

theorem outline_pluginsBody {a b : List Route.Mount} (h : a.length = b.length) :
    (pluginsBody a).map outline = (pluginsBody b).map outline := by
  have hshape : a.map (fun _ => ()) = b.map (fun _ => ()) := by
    rw [List.map_const', List.map_const', h]
  have hlines := map_outline_of_shape (fun x y _ => outline_mountLine x y) hshape
  have hempty : a.isEmpty = b.isEmpty := by
    rw [Bool.eq_iff_iff, List.isEmpty_iff_length_eq_zero, List.isEmpty_iff_length_eq_zero, h]
  simp only [pluginsBody, List.map_cons, List.map_nil, hempty]
  split
  · rfl
  · rw [outline_tableElement hlines]

theorem skeleton_layout (title title' : String) (navigation : Navigation) (body : String) :
    skeleton (layout title navigation body) = skeleton (layout title' navigation body) := by
  have hopening : skeleton (opening title) = skeleton (opening title') := by
    unfold opening
    simp only [skeleton_append]
    rw [skeleton_escape, skeleton_escape]
  simp only [layout, skeleton_append, hopening]

theorem outline_render (field : Field) :
    outline field.render.html = match field.length? with
      | some n => .element "ul" [("class", "")] (List.replicate n (.element "li" [] [.text ""]))
      | none => .text "" := by
  cases field with
  | list items =>
    simp [Field.render, Rendered.html, Field.length?, outlineAttribute, Function.comp_def,
      List.map_const']
  | _ => simp [Field.render, Rendered.html, Field.length?]

def rowOf (tier : Tier) (field : String × Field) : Row :=
  ⟨field.1, Text.humanize field.1, field.2.render, tier⟩

theorem outline_rowLine (tier : Tier) (a b : String × Field) (h : fieldShape a = fieldShape b) :
    outline (rowLine (rowOf tier a)) = outline (rowLine (rowOf tier b)) := by
  have hlength : a.2.length? = b.2.length? := congrArg Prod.snd h
  simp only [rowLine, rowOf, outline_element, outline_text, outlineAttribute, outline_render,
    hlength, List.map_cons, List.map_nil]

def shownIn (tier : Tier) (resource : Resource) : List (String × Field) :=
  resource.fields.filter ((fun s => s.1 = tier) ∘ fieldShape)

theorem map_fieldShape_shownIn (tier : Tier) (resource : Resource) :
    (shownIn tier resource).map fieldShape =
      (resource.fields.map fieldShape).filter fun s => s.1 = tier :=
  List.filter_map.symm

theorem rows_eq (tier : Tier) (resource : Resource) :
    resource.rows tier = (shownIn tier resource).map (rowOf tier) :=
  rfl

theorem outline_rowsTable {a b : Resource} (tier : Tier)
    (h : a.fields.map fieldShape = b.fields.map fieldShape) :
    outline (rowsTable (a.rows tier)) = outline (rowsTable (b.rows tier)) := by
  have hshapes : (shownIn tier a).map fieldShape = (shownIn tier b).map fieldShape := by
    rw [map_fieldShape_shownIn, map_fieldShape_shownIn, h]
  have hlines := map_outline_of_shape (outline_rowLine tier) hshapes
  rw [rows_eq, rows_eq, rowsTable, rowsTable, List.map_map, List.map_map]
  exact outline_tableElement hlines

namespace Detail

theorem outline_tabLink (a b : TabLabel) : outline (tabLink a) = outline (tabLink b) := by
  simp [tabLink, outlineAttribute]

theorem outline_tabList {a b : Detail} (h : a.tabs.length = b.tabs.length) :
    outline a.tabList = outline b.tabList := by
  have hshape : a.tabLabels.map (fun _ => ()) = b.tabLabels.map (fun _ => ()) := by
    simp only [List.map_const', tabLabels, List.length_append, List.length_map, h]
  have hlinks := map_outline_of_shape (fun x y _ => outline_tabLink x y) hshape
  simp only [tabList, outline_element, hlinks]

theorem outline_card {title : String} {a b : Html} (h : outline a = outline b) :
    outline (card title a) = outline (card title b) := by
  simp only [card, outline_element, List.map_cons, h]

theorem outline_pane {key key' : String} {a b : List Html} (h : a.map outline = b.map outline) :
    outline (pane key a) = outline (pane key' b) := by
  simp only [pane, outline_element, outlineAttribute, List.map_cons, h]

theorem outline_pluginPane (a b : LoadedTab) (h : a.content = b.content) :
    outline (pluginPane a) = outline (pluginPane b) := by
  rw [pluginPane, pluginPane, h]
  exact outline_pane rfl

theorem outline_createdNote (a b : String) :
    (createdNote a).map outline = (createdNote b).map outline := by
  simp [createdNote]

theorem outline_updatedNote (a b : String) (now now' : Time.Instant) :
    (updatedNote a now).map outline = (updatedNote b now').map outline := by
  simp [updatedNote, outlineAttribute]

theorem map_outline_flatMap_toList {f g : String → List Html}
    (hfg : ∀ x y, (f x).map outline = (g y).map outline) {a b : Option String}
    (h : a.isSome = b.isSome) :
    (a.toList.flatMap f).map outline = (b.toList.flatMap g).map outline := by
  cases a with
  | none => cases b with
    | none => rfl
    | some => cases h
  | some x => cases b with
    | none => cases h
    | some y => simpa using hfg x y

theorem outline_dates {a b : Detail}
    (hcreated : a.resource.created?.isSome = b.resource.created?.isSome)
    (hupdated : a.resource.lastUpdated?.isSome = b.resource.lastUpdated?.isSome) :
    outline a.dates = outline b.dates := by
  have hc := map_outline_flatMap_toList outline_createdNote hcreated
  have hu := map_outline_flatMap_toList
    (fun x y => outline_updatedNote x y a.now b.now) hupdated
  simp only [dates, outline_element, List.map_append, List.map_cons, hc, hu]

theorem outline_body {a b : Detail} (hfragments : a.fragments = b.fragments)
    (htabs : a.tabs.map LoadedTab.content = b.tabs.map LoadedTab.content)
    (hcreated : a.resource.created?.isSome = b.resource.created?.isSome)
    (hupdated : a.resource.lastUpdated?.isSome = b.resource.lastUpdated?.isSome)
    (hfields : a.resource.fields.map fieldShape = b.resource.fields.map fieldShape) :
    a.body.map outline = b.body.map outline := by
  have hcount : a.tabs.length = b.tabs.length := by simpa using congrArg List.length htabs
  have hmain : outline a.mainPane = outline b.mainPane := by
    rw [mainPane, mainPane, hfragments]
    refine outline_pane ?_
    rw [List.map_cons, List.map_cons, outline_card (outline_rowsTable .advanced hfields)]
  have hadvanced : outline a.advancedPane = outline b.advancedPane := by
    refine outline_pane ?_
    rw [List.map_singleton, List.map_singleton, outline_card (outline_rowsTable .basic hfields)]
  have hplugins := map_outline_of_shape outline_pluginPane htabs
  have hheading : outline a.heading = outline b.heading := outline_heading _ _
  simp only [body, panes, List.map_cons, hheading, outline_dates hcreated hupdated,
    outline_tabList hcount, hmain, hadvanced, hplugins]

end Detail

/-- The navigation bar, the bodies of lists, listings and notices, the page around a body, and the
body of a resource: whatever their texts are, one shape gives one skeleton. -/
theorem skeletons_of_shapes :
    (∀ menu menu' : List Menu.Dropdown,
      menu.map Menu.Dropdown.shape = menu'.map Menu.Dropdown.shape →
      skeleton (Navigation.loaded menu).html.write =
        skeleton (Navigation.loaded menu').html.write) ∧
    (∀ (title title' : String) (items items' : List ListItem),
      items.map (·.href.isSome) = items'.map (·.href.isSome) →
      skeleton (Html.writeAll (listBody title items)) =
        skeleton (Html.writeAll (listBody title' items'))) ∧
    (∀ mounts mounts' : List Route.Mount, mounts.length = mounts'.length →
      skeleton (Html.writeAll (pluginsBody mounts)) =
        skeleton (Html.writeAll (pluginsBody mounts'))) ∧
    (∀ message message' : String,
      skeleton (alert message).write = skeleton (alert message').write) ∧
    (∀ (title title' : String) (navigation : Navigation) (body : String),
      skeleton (layout title navigation body) = skeleton (layout title' navigation body)) ∧
    (∀ page page' : Detail, page.fragments = page'.fragments →
      page.tabs.map LoadedTab.content = page'.tabs.map LoadedTab.content →
      page.resource.created?.isSome = page'.resource.created?.isSome →
      page.resource.lastUpdated?.isSome = page'.resource.lastUpdated?.isSome →
      page.resource.fields.map fieldShape = page'.resource.fields.map fieldShape →
      skeleton (Html.writeAll page.body) = skeleton (Html.writeAll page'.body)) := by
  refine ⟨?_, ?_, ?_, ?_, skeleton_layout, ?_⟩
  · intro menu menu' h
    exact Html.skeleton_write_congr (Navigation.outline_html h)
  · intro title title' items items' h
    exact Html.skeleton_writeAll_congr (outline_listBody title title' h)
  · intro mounts mounts' h
    exact Html.skeleton_writeAll_congr (outline_pluginsBody h)
  · intro message message'
    exact Html.skeleton_write_congr (outline_alert message message')
  · intro page page' hfragments htabs hcreated hupdated hfields
    exact Html.skeleton_writeAll_congr
      (Detail.outline_body hfragments htabs hcreated hupdated hfields)

/-- A page of which every text that the backend chooses is markup. -/
def hostileDetail : Detail where
  resource := ⟨[("<b>", .scalar "<script>"), ("created", .scalar "'"),
    ("last_updated", .scalar "\"<"), ("tags", .list [.reference ">" none, .list []])]⟩
  fragments := [⟨"<hr>"⟩]
  tabs := [⟨⟨"\"><i>", "</a>", "u"⟩, none⟩]
  now := ⟨0, 0, 0⟩

def plainDetail : Detail where
  resource := ⟨[("name", .scalar "n"), ("created", .scalar "c"),
    ("last_updated", .scalar "2024-03-01T11:00:00Z"), ("tags", .list [.empty, .boolean true])]⟩
  fragments := [⟨"<hr>"⟩]
  tabs := [⟨⟨"k", "t", "v"⟩, none⟩]
  now := ⟨0, 0, 0⟩

theorem skeleton_hostileDetail :
    hostileDetail.resource.fields.map fieldShape = plainDetail.resource.fields.map fieldShape ∧
    skeleton (Html.writeAll hostileDetail.body) = skeleton (Html.writeAll plainDetail.body) := by
  have hshape : hostileDetail.resource.fields.map fieldShape =
      plainDetail.resource.fields.map fieldShape := by decide
  have hpages := skeletons_of_shapes.2.2.2.2.2 hostileDetail plainDetail
  exact ⟨hshape, hpages rfl rfl (by decide) (by decide) hshape⟩

end Page

end NetworkPortal
