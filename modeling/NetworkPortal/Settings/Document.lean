import NetworkPortal.Settings.Basic
import NetworkPortal.Toml.Printer
import NetworkPortal.Toml.Reader

/-! # Settings as a document

Settings are read from a TOML document and written as one. What a document leaves out keeps its
default value, and what it has beyond that is ignored. A section may also be given as an array of
its values in order.
-/
namespace NetworkPortal.Settings

open Toml (Value Entries)

/-- The values of a section: by place and key. -/
abbrev Fields := Nat → String → Option Value

/-- How a value holds the fields of a section. A date holds none of them. -/
def fields? : Value → Option Fields
  | .table _ entries => some fun _ key => Keyed.get? key entries
  | .inlineTable entries => some fun _ key => Keyed.get? key entries
  | .array items => some fun place _ => items[place]?
  | .tables elements => some fun place _ => elements[place]?.map (.table .header)
  | .moment _ => some fun _ _ => none
  | _ => none

def text? : Value → Option String
  | .text content => some content
  | _ => none

def boolean? : Value → Option Bool
  | .boolean value => some value
  | _ => none

def natural? (limit : Nat) : Value → Option Nat
  | .integer value =>
    let n := value.toInt
    if 0 ≤ n && n < limit then some n.toNat else none
  | _ => none

def texts? : Value → Option (List String)
  | .array items => items.mapM text?
  | _ => none

def orDefault {α : Type} (value : Option Value) (read : Value → Option α) (default : α) :
    Option α :=
  match value with
  | some value => read value
  | none => some default

def Server.ofFields? (fields : Fields) : Option Server := do
  let default : Server := {}
  return {
    host := ← orDefault (fields 0 "host") text? default.host
    port := ← orDefault (fields 1 "port") (natural? (Nat.pow 2 16)) default.port
    origins := ← orDefault (fields 2 "cors_origins") texts? default.origins }

def Api.ofFields? (fields : Fields) : Option Api := do
  let default : Api := {}
  return {
    baseUrl := ← orDefault (fields 0 "base_url") text? default.baseUrl
    timeout := ← orDefault (fields 1 "timeout_secs") (natural? (Nat.pow 2 64)) default.timeout
    slugViews := ← orDefault (fields 2 "slug_views") texts? default.slugViews }

def Plugins.ofFields? (directory : String) (fields : Fields) : Option Plugins := do
  return {
    enabled := ← orDefault (fields 0 "enabled") boolean? true
    directory := ← orDefault (fields 1 "dir") text? directory }

def ofEntries? (pluginDirectory : String) (entries : Entries) : Option Settings := do
  let default := defaults pluginDirectory
  let section? := fun (key : String) => Keyed.get? key entries
  return {
    server := ← orDefault (section? "server")
      (fun value => (fields? value).bind Server.ofFields?) default.server
    api := ← orDefault (section? "api")
      (fun value => (fields? value).bind Api.ofFields?) default.api
    plugins := ← orDefault (section? "plugins")
      (fun value => (fields? value).bind (Plugins.ofFields? pluginDirectory)) default.plugins }

def read? (pluginDirectory text : String) : Option Settings :=
  (Toml.read? text).bind (ofEntries? pluginDirectory)

def sections (settings : Settings) : List Toml.Section :=
  [⟨"server",
      [("host", .text settings.server.host),
        ("port", .natural settings.server.port),
        ("cors_origins", .texts settings.server.origins)]⟩,
    ⟨"api",
      [("base_url", .text settings.api.baseUrl),
        ("timeout_secs", .natural settings.api.timeout),
        ("slug_views", .texts settings.api.slugViews)]⟩,
    ⟨"plugins",
      [("enabled", .boolean settings.plugins.enabled),
        ("dir", .text settings.plugins.directory)]⟩]

def write (settings : Settings) : String := Toml.writeSections settings.sections

end NetworkPortal.Settings
