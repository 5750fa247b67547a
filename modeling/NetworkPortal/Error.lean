import NetworkPortal.Storage.Basic

/-! # Errors -/
namespace NetworkPortal

inductive SettingsFault where
  | notHttp (baseUrl : String)
  | zeroTimeout
  /-- The file is not TOML, or a value has the wrong type or range. -/
  | unreadable (path : String)
  | other (reason : String)
  deriving DecidableEq

inductive PluginFault where
  | blankIdentifier
  | mountNotSegment (mountPath : String)
  | entryOutside (entry : String)
  | unreadable (path : String) (fault : Storage.Fault)
  | other (reason : String)
  deriving DecidableEq

inductive Error where
  | settings (fault : SettingsFault)
  | fetch (url : String) (status : Nat)
  | plugin (fault : PluginFault)
  | storage (fault : Storage.Fault)
  | serialization
  | internal (reason : String)
  deriving DecidableEq

def SettingsFault.message : SettingsFault → String
  | .notHttp baseUrl => "api.base_url must be an http(s) URL, got '" ++ baseUrl ++ "'"
  | .zeroTimeout => "api.timeout_secs must be positive"
  | .unreadable path => path ++ ": TOML parse error\nthe document does not hold a configuration"
  | .other reason => reason

def PluginFault.message : PluginFault → String
  | .blankIdentifier => "identifier must not be empty"
  | .mountNotSegment mountPath =>
    "mount_path '" ++ mountPath ++ "' is not a single URL path segment"
  | .entryOutside entry => "entry '" ++ entry ++ "' must stay inside the plugin directory"
  | .unreadable path fault => "Failed to read " ++ path ++ ": " ++ fault.message
  | .other reason => reason

namespace Error

def message : Error → String
  | .settings fault => "Configuration error: " ++ fault.message
  | .fetch url status => "Fetch error: " ++ url ++ " returned " ++ toString status
  | .plugin fault => "Plugin error: " ++ fault.message
  | .storage fault => "IO error: " ++ fault.message
  | .serialization => "Serialization error: malformed JSON"
  | .internal reason => "Internal error: " ++ reason

def status? : Error → Option Nat
  | .fetch _ status => some status
  | _ => none

/-- What a command prints on failure: the message, and the cause that it wraps. -/
def report (error : Error) : String :=
  "Error: " ++ error.message ++
    match error with
    | .storage fault => "\n\nCaused by:\n    " ++ fault.message
    | _ => ""

end Error

end NetworkPortal
