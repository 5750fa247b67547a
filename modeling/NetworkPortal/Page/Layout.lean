import NetworkPortal.Page.Navigation

/-! # The page around a body -/
namespace NetworkPortal.Page

structure StyleRule where
  selector : String
  declarations : List String

def StyleRule.write (rule : StyleRule) : String :=
  rule.selector ++ " \x7b " ++ String.join (rule.declarations.map (· ++ "; ")) ++ "\x7d"

def styleRules : List StyleRule :=
  [⟨"body", ["font-family: -apple-system, \"Segoe UI\", Roboto, sans-serif", "margin: 0",
     "padding-top: 3.5rem"]⟩,
   ⟨"nav.navbar", ["position: fixed", "top: 0", "left: 0", "right: 0", "background: #f8f9fa",
     "padding: .5rem 1rem", "display: flex", "gap: 1rem", "font-size: 14px"]⟩,
   ⟨"nav .dropdown", ["position: relative"]⟩,
   ⟨"nav .dropdown-menu", ["display: none", "position: absolute", "background: #fff",
     "border: 1px solid #ddd", "min-width: 14rem", "padding: .25rem 0"]⟩,
   ⟨"nav .dropdown:hover .dropdown-menu", ["display: block"]⟩,
   ⟨"nav .dropdown-header", ["color: #6c757d", "padding: .25rem 1rem", "font-size: 12px"]⟩,
   ⟨"nav .dropdown-item", ["display: block", "padding: .25rem 1rem", "font-size: 13px"]⟩,
   ⟨"nav .dropdown-divider", ["border-top: 1px solid #e9ecef", "margin: .25rem 0"]⟩,
   ⟨"main", ["padding: 1rem 2rem"]⟩,
   ⟨"table", ["border-collapse: collapse", "width: 100%"]⟩,
   ⟨"td", ["border-top: 1px solid #dee2e6", "padding: .5rem", "vertical-align: top"]⟩,
   ⟨".nav-tabs", ["display: flex", "gap: 1rem", "list-style: none", "padding: 0",
     "border-bottom: 1px solid #dee2e6"]⟩,
   ⟨".tab-pane", ["padding-top: 1rem"]⟩,
   ⟨".list-unstyled", ["list-style: none", "padding: 0", "margin: 0"]⟩,
   ⟨".text-muted", ["color: #6c757d"]⟩,
   ⟨".alert", ["color: #842029", "background: #f8d7da", "padding: 1rem"]⟩]

def style : String := String.join (styleRules.map fun rule => "\n" ++ rule.write) ++ "\n"

def opening (title : String) : String :=
  "<!DOCTYPE html>\n<html lang=\"en\">\n<head>\n    <meta charset=\"UTF-8\">\n" ++
  "    <meta name=\"viewport\" content=\"width=device-width, initial-scale=1.0\">\n" ++
  "    <title>" ++ Html.escape title ++ " - Netfront</title>\n    <style>" ++ style ++
  "</style>\n</head>\n<body>\n"

def closing (body : String) : String :=
  "\n<main>\n" ++ body ++ "\n</main>\n</body>\n</html>"

def layout (title : String) (navigation : Navigation) (body : String) : String :=
  opening title ++ navigation.html.write ++ closing body

end NetworkPortal.Page
