import NetworkPortal.Page.Detail
import NetworkPortal.Proofs.Html.Escape
import NetworkPortal.Proofs.Html.Write
import NetworkPortal.Proofs.Plugin.Tab

/-! # Tabs and panes of a resource page

The list of tabs and the panes after it are written from the same keys in the same order, and no
two panes share an identifier.
-/
namespace NetworkPortal.Page.Detail

open Html (escape)
open Plugin (Tab)

def entryText (key title : String) : String :=
  "<li data-key=\"" ++ escape key ++ "\"><a href=\"#tab-" ++ escape key ++ "\">" ++ escape title ++
    "</a></li>"

def paneText (key content : String) : String :=
  "<section class=\"tab-pane\" id=\"tab-" ++ escape key ++ "\" data-key=\"" ++ escape key ++ "\">" ++
    content ++ "</section>"

def contents (page : Detail) : List String :=
  [Html.writeAll (card "Main" (rowsTable (page.resource.rows .advanced)) ::
      page.fragments.flatMap fun fragment => [lineBreak, .trusted fragment]),
    Html.writeAll [card "Advanced" (rowsTable (page.resource.rows .basic))], "", ""] ++
  page.tabs.map fun loaded => (loaded.content.map Markup.html).getD ""

theorem write_tabLink (label : TabLabel) :
    (tabLink label).write = entryText label.key label.title := by
  have hfront : escape "#tab-" = "#tab-" := by decide +kernel
  have hhref : escape ("#tab-" ++ label.key) = "#tab-" ++ escape label.key := by
    rw [Html.escape_append, hfront]
  simp only [tabLink, Html.write, Html.writeAll, Html.writeAttributes, hhref]
  unfold entryText
  apply String.toList_inj.mp
  simp

theorem write_pane (key : String) (content : List Html) :
    (pane key content).write = paneText key (Html.writeAll content) := by
  have hfront : escape "tab-" = "tab-" := by decide +kernel
  have hid : escape ("tab-" ++ key) = "tab-" ++ escape key := by
    rw [Html.escape_append, hfront]
  have hclass : escape "tab-pane" = "tab-pane" := by decide +kernel
  simp only [pane, Html.write, Html.writeAttributes, hid, hclass]
  unfold paneText
  apply String.toList_inj.mp
  simp

theorem write_pluginPane (loaded : LoadedTab) :
    (pluginPane loaded).write =
      paneText (pluginKey loaded.tab) ((loaded.content.map Markup.html).getD "") := by
  rw [pluginPane, write_pane]
  cases loaded.content with
  | none => rfl
  | some markup =>
    have hwritten : Html.writeAll [.trusted markup] = markup.html ++ "" := rfl
    rw [Option.toList_some, List.map_singleton, hwritten, String.append_empty]
    rfl

theorem write_tabList (page : Detail) :
    page.tabList.write = "<ul class=\"nav-tabs\">" ++
      String.join (List.zipWith entryText (page.tabLabels.map TabLabel.key)
        (page.tabLabels.map TabLabel.title)) ++ "</ul>" := by
  have hclass : escape "nav-tabs" = "nav-tabs" := by decide +kernel
  have hlinks : (page.tabLabels.map tabLink).map Html.write =
      List.zipWith entryText (page.tabLabels.map TabLabel.key)
        (page.tabLabels.map TabLabel.title) := by
    rw [List.map_map, List.zipWith_map, List.zipWith_self]
    exact List.map_congr_left fun label _ => write_tabLink label
  simp only [tabList, Html.write, Html.writeAttributes, Html.writeAll_eq_join, hclass, hlinks]
  apply String.toList_inj.mp
  simp

theorem write_panes (page : Detail) :
    Html.writeAll page.panes =
      String.join (List.zipWith paneText (page.tabLabels.map TabLabel.key) page.contents) := by
  have hplugins : (page.tabs.map pluginPane).map Html.write =
      List.zipWith paneText (page.tabs.map fun loaded => pluginKey loaded.tab)
        (page.tabs.map fun loaded => (loaded.content.map Markup.html).getD "") := by
    rw [List.map_map, List.zipWith_map, List.zipWith_self]
    exact List.map_congr_left fun loaded _ => write_pluginPane loaded
  have hkeys : page.tabLabels.map TabLabel.key =
      ["main", "advanced", "notes", "change_log"] ++
        page.tabs.map fun loaded => pluginKey loaded.tab := by
    rw [tabLabels, List.map_append, List.map_map]
    rfl
  rw [Html.writeAll_eq_join, hkeys]
  simp only [panes, mainPane, advancedPane, List.map_cons, write_pane, hplugins, contents,
    List.cons_append, List.nil_append, List.zipWith_cons_cons, Html.writeAll]

/-! ## Keys of their own -/

/-- The keys of the panes of a page with the tabs of a document. -/
def paneKeys (document : Json) : List String :=
  ["main", "advanced", "notes", "change_log"] ++
    (Tab.ofDocument document).map fun tab => "plugin-" ++ tab.key

theorem append_injective (front : String) : Function.Injective (front ++ ·) :=
  fun _ _ h => (String.append_right_inj front).mp h

theorem nodup_paneKeys (document : Json) : (paneKeys document).Nodup := by
  have hplugins : ((Tab.ofDocument document).map fun tab => "plugin-" ++ tab.key).Nodup := by
    have hmap := (Tab.nodup_ofDocument document).map (append_injective "plugin-")
    rw [List.map_map] at hmap
    exact hmap
  refine List.Nodup.append (by decide) hplugins fun key hbuiltIn hplugin => ?_
  obtain ⟨tab, _, rfl⟩ := List.mem_map.mp hplugin
  -- No built-in key begins like those of plugins.
  have hfront : ∀ key ∈ ["main", "advanced", "notes", "change_log"],
      ¬ "plugin-".toList <+: key.toList := by decide
  refine hfront _ hbuiltIn ?_
  rw [String.toList_append]
  exact List.prefix_append _ _

theorem tabLabels_keys {document : Json} {page : Detail}
    (htabs : page.tabs.map (·.tab.key) = (Tab.ofDocument document).map Tab.key) :
    page.tabLabels.map TabLabel.key = paneKeys document := by
  have hplugins := congrArg (List.map ("plugin-" ++ ·)) htabs
  rw [List.map_map, List.map_map] at hplugins
  rw [tabLabels, List.map_append, List.map_map, paneKeys]
  exact congrArg (["main", "advanced", "notes", "change_log"] ++ ·) hplugins

theorem length_contents (page : Detail) : page.contents.length = page.tabLabels.length := by
  simp only [contents, tabLabels, builtInTabs, List.length_append, List.length_map,
    List.length_cons, List.length_nil]

/-- A page with the tabs of a document is written as its heading and dates, a list of links to the
keys of the panes, and the panes with these keys in the same order; no two panes have one
identifier, be it as it is meant or as it is written. -/
theorem tabs_match_panes (document : Json) (page : Detail)
    (htabs : page.tabs.map (·.tab.key) = (Tab.ofDocument document).map Tab.key) :
    (page.tabLabels.map TabLabel.title).length = (paneKeys document).length ∧
    page.contents.length = (paneKeys document).length ∧
    Html.writeAll page.body =
      Html.writeAll [page.heading, page.dates] ++
      ("<ul class=\"nav-tabs\">" ++
        String.join (List.zipWith entryText (paneKeys document)
          (page.tabLabels.map TabLabel.title)) ++ "</ul>") ++
      String.join (List.zipWith paneText (paneKeys document) page.contents) ∧
    ((paneKeys document).map ("tab-" ++ ·)).Nodup ∧
    ((paneKeys document).map fun key => "tab-" ++ escape key).Nodup := by
  have hkeys := tabLabels_keys htabs
  refine ⟨?_, ?_, ?_, ?_, ?_⟩
  · rw [← hkeys, List.length_map, List.length_map]
  · rw [← hkeys, length_contents, List.length_map]
  · have hbody : Html.writeAll page.body = Html.writeAll [page.heading, page.dates] ++
        page.tabList.write ++ Html.writeAll page.panes := by
      simp only [body, Html.writeAll, String.append_empty, String.append_assoc]
    rw [hbody, write_tabList, write_panes, hkeys]
  · exact (nodup_paneKeys document).map (append_injective "tab-")
  · exact (nodup_paneKeys document).map ((append_injective "tab-").comp Html.escape_injective)

/-- A document whose third tab has the key of the first, and finds its next spelling taken. -/
def clashingDocument : Json :=
  let tab (title : String) : Json := .object [("title", .string title), ("url", .string "/t")]
  .object [("tabs", .array [.object [("info", tab "A"), ("info-2", tab "B")],
    .object [("info", tab "C")]])]

def clashingDetail : Detail where
  resource := ⟨[("name", .scalar "n")]⟩
  fragments := []
  tabs := [⟨⟨"info", "A", "http://nb/t"⟩, some ⟨"<hr>"⟩⟩, ⟨⟨"info-2", "B", "http://nb/t"⟩, none⟩,
    ⟨⟨"info-3", "C", "http://nb/t"⟩, none⟩]
  now := ⟨0, 0, 0⟩

theorem clashingDetail_tabs_match :
    clashingDetail.tabs.map (·.tab.key) = (Tab.ofDocument clashingDocument).map Tab.key ∧
    clashingDetail.contents.length = 7 ∧
    paneKeys clashingDocument = ["main", "advanced", "notes", "change_log", "plugin-info",
      "plugin-info-2", "plugin-info-3"] ∧
    ((paneKeys clashingDocument).map fun key => "tab-" ++ escape key).Nodup := by
  have htabs : clashingDetail.tabs.map (·.tab.key) =
      (Tab.ofDocument clashingDocument).map Tab.key := by decide +kernel
  have hkeys : paneKeys clashingDocument = ["main", "advanced", "notes", "change_log",
      "plugin-info", "plugin-info-2", "plugin-info-3"] := by decide +kernel
  obtain ⟨_, hcontents, _, _, hnodup⟩ := tabs_match_panes clashingDocument clashingDetail htabs
  refine ⟨htabs, ?_, hkeys, hnodup⟩
  rw [hcontents, hkeys]
  rfl

end NetworkPortal.Page.Detail
