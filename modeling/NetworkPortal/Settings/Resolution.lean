import NetworkPortal.Settings.Document
import NetworkPortal.Storage.Tree

/-! # Where settings come from

A file that is named, else the file in the default place, else the defaults; then the environment;
and last what is asked for on the command line.
-/
namespace NetworkPortal.Settings

abbrev Variables := String → Option String

/-- The directory that a variable names with an absolute path, else a place below the home
directory. -/
def userDirectory? (vars : Variables) (name belowHome : String) : Option String :=
  match (vars name).filter Storage.Path.isAbsolute with
  | some path => some path
  | none =>
    ((vars "HOME").filter (!·.isEmpty)).map fun home => Storage.Path.join home belowHome

def pluginDirectory (vars : Variables) : String :=
  let data := (userDirectory? vars "XDG_DATA_HOME" ".local/share").getD "."
  Storage.Path.join (Storage.Path.join data "netfront") "plugins"

def defaultPath? (vars : Variables) : Option String :=
  (userDirectory? vars "XDG_CONFIG_HOME" ".config").map fun path =>
    Storage.Path.join (Storage.Path.join path "netfront") "config.toml"

def load (storage : Storage) (vars : Variables) (path : String) : Except Error Settings :=
  match storage.readText path with
  | .error fault => .error (.storage fault)
  | .ok text =>
    match read? (pluginDirectory vars) text with
    | some settings => .ok settings
    | none => .error (.settings (.unreadable path))

/-- The settings before the environment has its say. -/
def loadFirst (storage : Storage) (vars : Variables) (path : Option String) :
    Except Error Settings :=
  match path with
  | some path => load storage vars path
  | none =>
    match (defaultPath? vars).filter storage.holds with
    | some path => load storage vars path
    | none => .ok (defaults (pluginDirectory vars))

def checked (settings : Settings) : Except Error Settings :=
  match settings.validate with
  | .ok _ => .ok settings
  | .error fault => .error (.settings fault)

def apiUrlVariable : String := "NETFRONT_API_URL"

def resolve (storage : Storage) (vars : Variables) (path : Option String) :
    Except Error Settings :=
  match loadFirst storage vars path with
  | .ok settings => checked (settings.withApiUrl (vars apiUrlVariable))
  | .error error => .error error

/-! ## Changes by hand -/

inductive Change where
  | host (host : String)
  | port (port : Nat)
  | apiUrl (url : String)
  | replace (settings : Settings)
  deriving DecidableEq

def apply (settings : Settings) : Change → Settings
  | .host host => { settings with server := { settings.server with host } }
  | .port port => { settings with server := { settings.server with port } }
  | .apiUrl url => { settings with api := { settings.api with baseUrl := url } }
  | .replace settings => settings

/-- Settings with changes made one after the other, if they then pass the check. -/
def changed (settings : Settings) (changes : List Change) : Except Error Settings :=
  checked (changes.foldl apply settings)

end NetworkPortal.Settings
