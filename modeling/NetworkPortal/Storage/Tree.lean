import NetworkPortal.Keyed
import NetworkPortal.Storage.Basic

/-! # The file tree

Files, directories and symbolic links below one root. A path is followed name by name, and a link
on the way is replaced by its target, forty times at most.
-/
namespace NetworkPortal

inductive Storage.Node where
  | file (bytes : ByteArray)
  | directory (entries : List (String × Storage.Node))
  | link (target : String)

/-- The tree with the directory at which relative paths start. -/
structure Storage where
  root : Storage.Node := .directory []
  start : List String := []

namespace Storage

/-- The names from the root down to a node, none of them a link. -/
abbrev Location := List String

namespace Node

def child? (name : String) : Node → Option Node
  | .directory entries => Keyed.get? name entries
  | _ => none

def atLocation? : Location → Node → Option Node
  | [], node => some node
  | name :: rest, node => (node.child? name).bind (atLocation? rest)

def isDirectory : Node → Bool
  | .directory _ => true
  | _ => false

end Node

/-- How far a path leads without following a link. -/
inductive Progress where
  | arrived (location : Location)
  | missing (location : Location) (name : String) (rest : List String)
  | stopped (fault : Fault)
  /-- A link was met at a location with the rest of the way still to go. -/
  | met (location : Location) (target : String) (rest : List String)

def nameLimit : Nat := 255

/-- The length from which on a path is too long, in bytes. -/
def pathLimit : Nat := 4096

def linkLimit : Nat := 40

/-- Goes on from a location step by step up to the first link. -/
def advance (root : Node) (here : Location) : List String → Progress
  | [] => .arrived here
  | name :: rest =>
    match root.atLocation? here with
    | some (.directory entries) =>
      if name = "." then advance root here rest
      else if name = ".." then advance root here.dropLast rest
      else if nameLimit < name.utf8ByteSize then .stopped .nameTooLong
      else
        match Keyed.get? name entries with
        | none => .missing here name rest
        | some (.link target) => .met here target rest
        | some _ => advance root (here ++ [name]) rest
    | _ => .stopped .notDirectory

/-- Where a path ends: at a node, or at a name that its directory lacks, with the rest of the way
beyond it. -/
inductive Destination where
  | node (location : Location)
  | gap (location : Location) (name : String) (rest : List String)

def trace (root : Node) : Nat → Location → List String → Except Fault Destination
  | links, here, steps =>
    match advance root here steps with
    | .arrived location => .ok (.node location)
    | .missing location name rest => .ok (.gap location name rest)
    | .stopped fault => .error fault
    | .met location target rest =>
      match links with
      | 0 => .error .tooManyLinks
      | links + 1 =>
        trace root links (if Path.isAbsolute target then [] else location)
          (Path.steps target ++ rest)

def follow (root : Node) (here : Location) (steps : List String) : Except Fault Location :=
  match trace root linkLimit here steps with
  | .ok (.node location) => .ok location
  | .ok (.gap ..) => .error .notFound
  | .error fault => .error fault

variable (storage : Storage)

def locate (path : String) : Except Fault Location :=
  if '\x00' ∈ path.toList then .error .badName
  else if path.isEmpty then .error .notFound
  else if pathLimit ≤ path.utf8ByteSize then .error .nameTooLong
  else
    follow storage.root (if Path.isAbsolute path then [] else storage.start)
      (Path.steps path)

def find (path : String) : Except Fault Node :=
  match storage.locate path with
  | .ok location =>
    match storage.root.atLocation? location with
    | some node => .ok node
    | none => .error .notFound
  | .error fault => .error fault

def holds (path : String) : Bool := (storage.find path).isOk

def holdsDirectory (path : String) : Bool :=
  match storage.find path with
  | .ok node => node.isDirectory
  | .error _ => false

def readText (path : String) : Except Fault String :=
  match storage.find path with
  | .ok (.file bytes) =>
    match String.fromUTF8? bytes with
    | some text => .ok text
    | none => .error .badText
  | .ok _ => .error .isDirectory
  | .error fault => .error fault

def names (path : String) : Except Fault (List String) :=
  match storage.find path with
  | .ok (.directory entries) => .ok (entries.map (·.1))
  | .ok _ => .error .notDirectory
  | .error fault => .error fault

/-! ## Changes -/

def Node.set (name : String) (node : Option Node) : Location → Node → Node
  | [], .directory entries =>
    .directory (match node with
      | some node => Keyed.put name node entries
      | none => entries.filter (·.1 != name))
  | step :: rest, .directory entries =>
    .directory (entries.map fun (key, child) =>
      (key, if key = step then child.set name node rest else child))
  | _, node => node

/-- Makes the directories on the way from a location that are not there yet. A link that leads
nowhere stays in the way. -/
def makeWay (root : Node) (here : Location) : List String → Except Fault (Node × Location)
  | [] => .ok (root, here)
  | name :: rest =>
    match trace root linkLimit here [name] with
    | .ok (.node location) => makeWay root location rest
    | .ok (.gap location _ _) =>
      if ((root.atLocation? here).bind (·.child? name)).isNone then
        makeWay (root.set name (some (.directory [])) location) (location ++ [name]) rest
      else .error .notFound
    | .error fault => .error fault

/-- The tree with the way to a path made, the place of its last name, and that name. -/
def prepare (path : String) : Except Fault (Node × Location × String) :=
  let steps := (Path.steps path).filter (· != ".")
  match makeWay storage.root (if Path.isAbsolute path then [] else storage.start)
      steps.dropLast with
  | .ok (root, location) => .ok (root, location, steps.getLastD "")
  | .error fault => .error fault

def makeDirectory (path : String) : Except Fault Storage :=
  match makeWay storage.root (if Path.isAbsolute path then [] else storage.start)
      (Path.steps path) with
  | .ok (root, _) => .ok { storage with root }
  | .error fault => .error fault

/-- Puts a node in the place of a path, whatever was there. -/
def place (path : String) (node : Node) : Except Fault Storage :=
  match storage.prepare path with
  | .ok (root, location, name) => .ok { storage with root := root.set name (some node) location }
  | .error fault => .error fault

/-- Writes a file; through a link, into the file it leads to, there already or not. -/
def write (path : String) (bytes : ByteArray) : Except Fault Storage :=
  match storage.prepare path with
  | .error fault => .error fault
  | .ok (root, location, name) =>
    let put := fun (name : String) (location : Location) =>
      Except.ok { storage with root := root.set name (some (.file bytes)) location }
    match trace root linkLimit location [name] with
    | .ok (.gap location name []) => put name location
    | .ok (.gap _ _ (_ :: _)) => .error .notFound
    | .ok (.node location) =>
      match root.atLocation? location with
      | some (.file _) => put (location.getLastD "") location.dropLast
      | _ => .error .isDirectory
    | .error fault => .error fault

def remove (path : String) : Except Fault Storage :=
  match storage.prepare path with
  | .ok (_, location, name) => .ok { storage with root := storage.root.set name none location }
  | .error fault => .error fault

end Storage

end NetworkPortal
