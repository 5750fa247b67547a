import NetworkPortal.Html.Basic
import NetworkPortal.Menu.Tree

/-! # The navigation bar -/
namespace NetworkPortal.Page

inductive Navigation where
  | loaded (dropdowns : List Menu.Dropdown)
  | failed
  deriving DecidableEq

def alert (message : String) : Html := .element "div" [("class", "alert")] [.text message]

namespace Navigation

def childHtml : Menu.Child → Html
  | .link key href label =>
    .element "a" [("class", "dropdown-item"), ("data-key", key), ("href", href)] [.text label]
  | .divider => .element "div" [("class", "dropdown-divider")] []

def sectionHtml (group : Menu.Section) : Html :=
  .element "div" [("data-key", group.key)]
    (.element "h6" [("class", "dropdown-header")] [.text group.header] ::
      group.children.map childHtml)

def dropdownHtml (dropdown : Menu.Dropdown) : Html :=
  .element "div" [("class", "dropdown"), ("data-key", dropdown.key)]
    [.element "span" [("class", "dropdown-toggle")] [.text dropdown.label],
      .element "div" [("class", "dropdown-menu")] (dropdown.sections.map sectionHtml)]

def brand : Html :=
  .element "a" [("class", "navbar-brand"), ("href", "/")] [.text "Netfront"]

def html : Navigation → Html
  | .loaded dropdowns =>
    .element "nav" [("class", "navbar")] (brand :: dropdowns.map dropdownHtml)
  | .failed => alert "Failed to load menu"

end Navigation

end NetworkPortal.Page
