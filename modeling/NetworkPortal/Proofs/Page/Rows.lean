import Mathlib.Data.List.Permutation
import NetworkPortal.Page.Detail
import NetworkPortal.Proofs.Resource.Rows

/-! # Where a resource page shows its rows

The fields of a resource stand in two of the panes of its page, each field in one row. Nothing else
of the page holds a row, apart from what trusted markup may hold.
-/
namespace NetworkPortal

namespace Html

mutual

/-- The table rows of a tree in order. Trusted markup is not looked into. -/
def tableRows : Html → List Html
  | .text _ => []
  | .trusted _ => []
  | .element name attributes children =>
    if name = "tr" then [.element name attributes children] else tableRowsAll children

def tableRowsAll : List Html → List Html
  | [] => []
  | node :: rest => node.tableRows ++ tableRowsAll rest

end

def attribute? (name : String) : Html → Option String
  | .element _ attributes _ => Keyed.get? name attributes
  | _ => none

@[simp] theorem tableRows_text (content : String) : tableRows (.text content) = [] := by
  rw [tableRows]

@[simp] theorem tableRows_trusted (markup : Markup) : tableRows (.trusted markup) = [] := by
  rw [tableRows]

@[simp] theorem tableRowsAll_nil : tableRowsAll [] = [] := by
  rw [tableRowsAll]

@[simp] theorem tableRowsAll_cons (node : Html) (rest : List Html) :
    tableRowsAll (node :: rest) = node.tableRows ++ tableRowsAll rest := by
  rw [tableRowsAll]

theorem tableRows_of_row (attributes : List (String × String)) (children : List Html) :
    tableRows (.element "tr" attributes children) = [.element "tr" attributes children] := by
  rw [tableRows, if_pos rfl]

theorem tableRows_of_ne {name : String} (h : name ≠ "tr") (attributes : List (String × String))
    (children : List Html) :
    tableRows (.element name attributes children) = tableRowsAll children := by
  rw [tableRows, if_neg h]

theorem tableRowsAll_eq_nil {nodes : List Html} (h : ∀ node ∈ nodes, node.tableRows = []) :
    tableRowsAll nodes = [] := by
  induction nodes with
  | nil => exact tableRowsAll_nil
  | cons node rest ih =>
    obtain ⟨hnode, hrest⟩ := List.forall_mem_cons.mp h
    rw [tableRowsAll_cons, hnode, ih hrest, List.append_nil]

end Html

namespace Page

open Html (tableRows tableRowsAll tableRows_of_ne tableRowsAll_cons)

theorem tableRows_rowsTable (rows : List Row) : (rowsTable rows).tableRows = rows.map rowLine := by
  have hlines : tableRowsAll (rows.map rowLine) = rows.map rowLine := by
    induction rows with
    | nil => exact Html.tableRowsAll_nil
    | cons row rest ih =>
      rw [List.map_cons, tableRowsAll_cons, ih, rowLine, Html.tableRows_of_row]
      rfl
  simp only [rowsTable, tableElement, tableRows_of_ne (show "table" ≠ "tr" by decide),
    tableRows_of_ne (show "tbody" ≠ "tr" by decide), tableRowsAll_cons, Html.tableRowsAll_nil,
    List.append_nil, hlines]

namespace Detail

theorem tableRows_pane (key : String) (content : List Html) :
    (pane key content).tableRows = tableRowsAll content :=
  tableRows_of_ne (by decide) _ _

theorem tableRows_card (title : String) (rows : List Row) :
    (card title (rowsTable rows)).tableRows = rows.map rowLine := by
  simp [card, tableRows_of_ne, tableRows_rowsTable]

theorem tableRows_mainPane (page : Detail) :
    page.mainPane.tableRows = (page.resource.rows .advanced).map rowLine := by
  have hfragments : tableRowsAll
      (page.fragments.flatMap fun fragment => [lineBreak, .trusted fragment]) = [] := by
    apply Html.tableRowsAll_eq_nil
    intro node hnode
    obtain ⟨fragment, _, hpair⟩ := List.mem_flatMap.mp hnode
    rcases List.mem_pair.mp hpair with rfl | rfl
    · exact Html.tableRows_trusted _
    · exact Html.tableRows_trusted _
  rw [mainPane, tableRows_pane, tableRowsAll_cons, tableRows_card, hfragments, List.append_nil]

theorem tableRows_advancedPane (page : Detail) :
    page.advancedPane.tableRows = (page.resource.rows .basic).map rowLine := by
  rw [advancedPane, tableRows_pane, tableRowsAll_cons, tableRows_card, Html.tableRowsAll_nil,
    List.append_nil]

theorem tableRows_pluginPane (loaded : LoadedTab) : (pluginPane loaded).tableRows = [] := by
  rw [pluginPane, tableRows_pane]
  apply Html.tableRowsAll_eq_nil
  intro node hnode
  obtain ⟨markup, _, rfl⟩ := List.mem_map.mp hnode
  exact Html.tableRows_trusted markup

theorem tableRows_heading (page : Detail) : page.heading.tableRows = [] := by
  simp [heading, tableRows_of_ne]

theorem tableRows_dates (page : Detail) : page.dates.tableRows = [] := by
  have hnotes : tableRowsAll ((page.resource.created?.toList.flatMap createdNote) ++
      page.resource.lastUpdated?.toList.flatMap fun updated => updatedNote updated page.now) =
        [] := by
    cases page.resource.created? <;> cases page.resource.lastUpdated? <;>
      simp [createdNote, updatedNote, tableRows_of_ne]
  simp [dates, tableRows_of_ne, hnotes]

theorem tableRows_tabList (page : Detail) : page.tabList.tableRows = [] := by
  rw [tabList, tableRows_of_ne (by decide)]
  apply Html.tableRowsAll_eq_nil
  intro node hnode
  obtain ⟨label, _, rfl⟩ := List.mem_map.mp hnode
  simp [tabLink, tableRows_of_ne]

/-- The identifier of a part of a page, and the rows that it holds. -/
def rowsById (part : Html) : Option String × List Html := (part.attribute? "id", part.tableRows)

theorem map_rowsById_body (page : Detail) :
    page.body.map rowsById =
      [(none, []), (none, []), (none, []),
        (some "tab-main", (page.resource.rows .advanced).map rowLine),
        (some "tab-advanced", (page.resource.rows .basic).map rowLine),
        (some "tab-notes", []), (some "tab-change_log", [])] ++
      page.tabs.map fun loaded => (some ("tab-" ++ pluginKey loaded.tab), []) := by
  have hplugins : (page.tabs.map pluginPane).map rowsById =
      page.tabs.map fun loaded => (some ("tab-" ++ pluginKey loaded.tab), []) := by
    rw [List.map_map]
    refine List.map_congr_left fun loaded _ => ?_
    rw [Function.comp_apply, rowsById, tableRows_pluginPane]
    rfl
  simp only [body, panes, List.map_cons, hplugins]
  simp only [rowsById, tableRows_heading, tableRows_dates, tableRows_tabList, tableRows_mainPane,
    tableRows_advancedPane, tableRows_pane, Html.tableRowsAll_nil]
  rfl

/-- A JSON object is a resource whose rows share out its members between the tiers. On a page of the
resource the advanced rows stand in the main pane, the basic rows in the advanced pane, and no row
stands elsewhere. -/
theorem fields_shown_once (members : List (String × Json)) (hkeys : (members.map Prod.fst).Nodup) :
    ∃ resource, Resource.ofJson? (.object members) = some resource ∧
      Resource.ShareOut members resource.rows ∧
      ∀ (fragments : List Markup) (tabs : List LoadedTab) (now : Time.Instant),
        (body ⟨resource, fragments, tabs, now⟩).map rowsById =
          [(none, []), (none, []), (none, []),
            (some "tab-main", (resource.rows .advanced).map rowLine),
            (some "tab-advanced", (resource.rows .basic).map rowLine),
            (some "tab-notes", []), (some "tab-change_log", [])] ++
          tabs.map fun loaded => (some ("tab-" ++ pluginKey loaded.tab), []) :=
  ⟨_, rfl, Resource.shareOut_rows hkeys, fun _ _ _ => map_rowsById_body _⟩

/-- A text that gives one key twice. -/
def rackText : String :=
  "\x7b\"id\":\"1\",\"name\":\"R1\",\"tags\":[],\"id\":\"2\",\"slug\":null\x7d"

def rackMembers : List (String × Json) :=
  [("id", .string "2"), ("name", .string "R1"), ("tags", .array []), ("slug", .null)]

theorem rack_shown_once :
    Json.read? rackText = some (.object rackMembers) ∧ (rackMembers.map Prod.fst).Nodup ∧
    ∃ resource, Resource.ofJson? (.object rackMembers) = some resource ∧
      (resource.rows .advanced).map Row.key = ["name", "tags"] ∧
      ∀ key, key ∈ (resource.rows .basic).map Row.key ↔
        key ∈ rackMembers.map Prod.fst ∧ key ∈ ["id", "url", "display", "slug", "notes_url"] := by
  have hread : Json.read? rackText = some (.object rackMembers) := by cbv
  have hkeys := Json.nodup_keys_of_read? hread
  obtain ⟨resource, hresource, hshare, _⟩ := fields_shown_once rackMembers hkeys
  refine ⟨hread, hkeys, resource, hresource, ?_, hshare.basic_iff⟩
  rw [← Option.some.inj hresource]
  decide +kernel

end Detail

end Page

end NetworkPortal
