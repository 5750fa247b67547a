import NetworkPortal.Plugin.Component
import NetworkPortal.Plugin.Manifest

/-! # Installed plugins

Every directory below the plugin directory that holds a valid manifest is an installed plugin.
They are listed by the bytes of their directory names.
-/
namespace NetworkPortal.Plugin

structure Registration where
  identifier : String
  mountPath : String
  title : String
  loader : Loader

namespace Registration

/-- A plugin is titled by its identifier unless its manifest has a title. -/
def ofManifest (manifest : Manifest) (directory : String) : Registration where
  identifier := manifest.identifier
  mountPath := manifest.mountPath
  title := manifest.title.getD manifest.identifier
  loader := .file (Storage.Path.join directory manifest.entry)

def inDirectory? (storage : Storage) (directory : String) : Option Registration :=
  match storage.readText (Storage.Path.join directory Manifest.fileName) with
  | .error _ => none
  | .ok text =>
    (Manifest.read? text).bind fun manifest =>
      match manifest.validate with
      | .ok _ => some (.ofManifest manifest directory)
      | .error _ => none

end Registration

def bytesLe (a b : String) : Bool := decide (a.toUTF8.data.toList ≤ b.toUTF8.data.toList)

def isPluginDirectory (storage : Storage) (directory : String) : Bool :=
  storage.holdsDirectory directory &&
    storage.holds (Storage.Path.join directory Manifest.fileName)

/-- The plugins installed in a directory; none if it is missing. -/
def discover (storage : Storage) (directory : String) :
    Except Storage.Fault (List Registration) :=
  if storage.holds directory then
    match storage.names directory with
    | .error fault => .error fault
    | .ok names =>
      .ok ((((names.mergeSort bytesLe).map (Storage.Path.join directory)).filter
        (isPluginDirectory storage)).filterMap (Registration.inDirectory? storage))
  else .ok []

end NetworkPortal.Plugin
