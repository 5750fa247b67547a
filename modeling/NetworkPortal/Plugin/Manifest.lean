import NetworkPortal.Error
import NetworkPortal.Json.Reader
import NetworkPortal.Text.Basic

/-! # Plugin manifests

The file by which a plugin presents itself: an object of four known keys, or their values as an
array. The values of other keys need only be well formed.
-/
namespace NetworkPortal.Plugin

structure Manifest where
  identifier : String
  mountPath : String
  title : Option String
  /-- The page of the plugin, as a path below its directory. -/
  entry : String
  deriving DecidableEq

namespace Manifest

def fileName : String := "manifest.json"

def defaultEntry : String := "index.html"

def text? : Json.Syntax → Option String
  | .string pieces => Json.text? pieces
  | _ => none

def title? : Json.Syntax → Option (Option String)
  | .null => some none
  | value => (text? value).map some

def keyed? : List (List Json.Piece × Json.Syntax) → Option (List (String × Json.Syntax))
  | [] => some []
  | (key, value) :: rest =>
    match Json.text? key, keyed? rest with
    | some key, some pairs => some ((key, value) :: pairs)
    | _, _ => none

/-- The value under a key that occurs at most once. -/
def single? (key : String) (members : List (String × Json.Syntax)) :
    Option (Option Json.Syntax) :=
  match members.filter (·.1 == key) with
  | [] => some none
  | [(_, value)] => some (some value)
  | _ => none

def ofMembers? (members : List (String × Json.Syntax)) : Option Manifest := do
  let identifier ← (← single? "identifier" members).bind text?
  let mountPath ← (← single? "mount_path" members).bind text?
  let title ← match ← single? "title" members with
    | some value => title? value
    | none => some none
  let entry ← match ← single? "entry" members with
    | some value => text? value
    | none => some defaultEntry
  return ⟨identifier, mountPath, title, entry⟩

def ofSyntax? : Json.Syntax → Option Manifest
  | .object members => (keyed? members).bind ofMembers?
  | .array [identifier, mountPath] => do
    return ⟨← text? identifier, ← text? mountPath, none, defaultEntry⟩
  | .array [identifier, mountPath, title] => do
    return ⟨← text? identifier, ← text? mountPath, ← title? title, defaultEntry⟩
  | .array [identifier, mountPath, title, entry] => do
    return ⟨← text? identifier, ← text? mountPath, ← title? title, ← text? entry⟩
  | _ => none

def read? (text : String) : Option Manifest := (Json.Syntax.read? text).bind ofSyntax?

def isSegmentChar (c : Char) : Bool :=
  c.isAlphanum || c = '-' || c = '_' || c = '.'

/-- Whether a text can stand as one segment of an address without encoding, and is neither `.` nor
`..`. -/
def isPathSegment (text : String) : Bool :=
  text != "" && text.toList.all isSegmentChar && text != "." && text != ".."

/-- The manifest names its plugin, has a place to be mounted, and keeps to its directory. -/
def validate (manifest : Manifest) : Except PluginFault Unit :=
  if Text.allBlank manifest.identifier then .error .blankIdentifier
  else if !isPathSegment manifest.mountPath then .error (.mountNotSegment manifest.mountPath)
  else if Text.contains ".." manifest.entry || Text.startsWith "/" manifest.entry then
    .error (.entryOutside manifest.entry)
  else .ok ()

end Manifest

end NetworkPortal.Plugin
