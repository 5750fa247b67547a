import NetworkPortal.Page.Listing
import NetworkPortal.Plugin.Tab
import NetworkPortal.Time.Age

/-! # The page of a resource

A heading, a line of dates, and a list of tabs with a pane for each: four built-in tabs and those
of plugins. The main pane shows the fields meant for the user, and below them what plugins add.
-/
namespace NetworkPortal.Page

structure LoadedTab where
  tab : Plugin.Tab
  content : Option Markup
  deriving DecidableEq

structure Detail where
  resource : Resource
  fragments : List Markup
  tabs : List LoadedTab
  now : Time.Instant

structure TabLabel where
  key : String
  title : String
  deriving DecidableEq

namespace Detail

def builtInTabs : List TabLabel :=
  [⟨"main", "Main"⟩, ⟨"advanced", "Advanced"⟩, ⟨"notes", "Notes"⟩, ⟨"change_log", "Change Log"⟩]

/-- Keys of plugin tabs stand apart from the built-in ones. -/
def pluginKey (tab : Plugin.Tab) : String := "plugin-" ++ tab.key

def tabLabels (page : Detail) : List TabLabel :=
  builtInTabs ++ page.tabs.map fun loaded => ⟨pluginKey loaded.tab, loaded.tab.title⟩

def tabLink (label : TabLabel) : Html :=
  .element "li" [("data-key", label.key)]
    [.element "a" [("href", "#tab-" ++ label.key)] [.text label.title]]

def tabList (page : Detail) : Html :=
  .element "ul" [("class", "nav-tabs")] (page.tabLabels.map tabLink)

def card (title : String) (content : Html) : Html :=
  .element "div" [("class", "card")]
    [.element "div" [("class", "card-header")] [.element "strong" [] [.text title]], content]

def pane (key : String) (content : List Html) : Html :=
  .element "section" [("class", "tab-pane"), ("id", "tab-" ++ key), ("data-key", key)] content

def lineBreak : Html := .trusted ⟨"<br>"⟩

def mainPane (page : Detail) : Html :=
  pane "main" (card "Main" (rowsTable (page.resource.rows .advanced)) ::
    page.fragments.flatMap fun fragment => [lineBreak, .trusted fragment])

def advancedPane (page : Detail) : Html :=
  pane "advanced" [card "Advanced" (rowsTable (page.resource.rows .basic))]

def pluginPane (loaded : LoadedTab) : Html :=
  pane (pluginKey loaded.tab) (loaded.content.toList.map .trusted)

def panes (page : Detail) : List Html :=
  page.mainPane :: page.advancedPane :: pane "notes" [] :: pane "change_log" [] ::
    page.tabs.map pluginPane

def createdNote (created : String) : List Html :=
  [.text ("Created " ++ created ++ " "), .trusted ⟨"&middot;"⟩, .text " "]

/-- The age of the last update, or its text if that is no timestamp. -/
def updatedNote (updated : String) (now : Time.Instant) : List Html :=
  [.text "Updated ",
    .element "span" [("title", updated)] [.text ((Time.ago? updated now).getD updated)],
    .text " ago"]

def dates (page : Detail) : Html :=
  .element "p" [] [.element "small" [("class", "text-muted")]
    ((page.resource.created?.toList.flatMap createdNote) ++
      page.resource.lastUpdated?.toList.flatMap fun updated => updatedNote updated page.now)]

def heading (page : Detail) : Html := .element "h1" [] [.text page.resource.title]

def body (page : Detail) : List Html :=
  page.heading :: page.dates :: page.tabList :: page.panes

end Detail

end NetworkPortal.Page
