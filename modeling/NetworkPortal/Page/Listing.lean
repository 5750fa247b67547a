import NetworkPortal.Resource
import NetworkPortal.Route.Table

/-! # Tables and lists

The fields of a resource, the resources of a list and the installed plugins are shown as tables of
one form.
-/
namespace NetworkPortal.Page

def tableElement (lines : List Html) : Html :=
  .element "table" [("class", "table table-hover")] [.element "tbody" [] lines]

def rowLine (row : Row) : Html :=
  .element "tr" [("data-key", row.key)]
    [.element "td" [] [.text row.label], .element "td" [] [row.rendered.html]]

def rowsTable (rows : List Row) : Html := tableElement (rows.map rowLine)

/-! ## Lists of resources -/

structure ListItem where
  label : String
  href : Option String
  deriving DecidableEq

namespace ListItem

/-- A member that can name a resource: a string that is not empty, or a number. -/
def usableText? : Json → Option String
  | .string text => if text.isEmpty then none else some text
  | .number value => some value.text
  | _ => none

def memberText? (members : List (String × Json)) (key : String) : Option String :=
  (Keyed.get? key members).bind usableText?

/-- A resource is listed by its display text, else its name, else its identifier, and leads to its
page if it has an identifier. -/
def ofMembers (app model : String) (members : List (String × Json)) : ListItem where
  label := (((memberText? members "display").or (memberText? members "name")).or
    (memberText? members "id")).getD Rendered.dash
  href := (memberText? members "id").map fun id => "/" ++ app ++ "/" ++ model ++ "/" ++ id

/-- The elements of a list response: of its `results`, or of the response itself. -/
def elements (listing : Json) : List Json :=
  (((listing.get? "results").bind Json.array?).or listing.array?).getD []

/-- The lines of a list response, one for each element that is an object. -/
def ofListing (listing : Json) (app model : String) : List ListItem :=
  ((elements listing).filterMap Json.object?).map (ofMembers app model)

def cell (item : ListItem) : Html :=
  match item.href with
  | some href => .element "a" [("href", href)] [.text item.label]
  | none => .text item.label

def line (item : ListItem) : Html := .element "tr" [] [.element "td" [] [item.cell]]

end ListItem

def heading (title : String) : Html := .element "h1" [] [.text title]

def muted (text : String) : Html := .element "p" [("class", "text-muted")] [.text text]

def listBody (title : String) (items : List ListItem) : List Html :=
  [heading title,
    if items.isEmpty then muted "No objects found." else tableElement (items.map ListItem.line)]

def homeBody : List Html :=
  [heading "Netfront", muted "Select a resource type from the menu."]

/-! ## The listing of plugins -/

def mountLine (mount : Route.Mount) : Html :=
  .element "tr" [("data-key", mount.identifier)]
    [.element "td" []
      [.element "a" [("href", Route.pluginsPath ++ mount.mountPath)] [.text mount.title]],
      .element "td" [] [.text mount.identifier]]

def pluginsBody (mounts : List Route.Mount) : List Html :=
  [heading "Installed Plugins",
    if mounts.isEmpty then muted "No plugins installed." else tableElement (mounts.map mountLine)]

end NetworkPortal.Page
