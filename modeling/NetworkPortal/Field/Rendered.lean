import NetworkPortal.Field.Basic
import NetworkPortal.Html.Basic

/-! # Rendered values

What a field shows: a placeholder, a text, a list of texts, or a glyph. A list inside a list is
shown as one text, its elements joined with commas.
-/
namespace NetworkPortal

inductive Rendered where
  | placeholder
  | text (content : String)
  | list (items : List String)
  | glyph (value : Bool)
  deriving DecidableEq

namespace Rendered

def dash : String := "—"

def glyphText (value : Bool) : String := if value then "✅" else "🚫"

def display : Rendered → String
  | .placeholder => dash
  | .text content => content
  | .list items => ", ".intercalate items
  | .glyph value => glyphText value

def html : Rendered → Html
  | .list items =>
    .element "ul" [("class", "list-unstyled")] (items.map fun item => .element "li" [] [.text item])
  | value => .text value.display

end Rendered

namespace Field

mutual

def inline : Field → String
  | .empty => Rendered.dash
  | .scalar text => text
  | .reference display _ => display
  | .list items => ", ".intercalate (inlineAll items)
  | .boolean value => Rendered.glyphText value

def inlineAll : List Field → List String
  | [] => []
  | item :: rest => item.inline :: inlineAll rest

end

def render : Field → Rendered
  | .empty => .placeholder
  | .scalar text => .text text
  | .reference display _ => .text display
  | .list items => .list (items.map inline)
  | .boolean value => .glyph value

theorem inlineAll_eq_map (items : List Field) : inlineAll items = items.map inline := by
  induction items with
  | nil => rfl
  | cons item rest ih => rw [inlineAll, ih, List.map_cons]

theorem display_render (field : Field) : field.render.display = field.inline := by
  cases field <;> simp [render, Rendered.display, inline, inlineAll_eq_map]

end Field

end NetworkPortal
