import NetworkPortal.Command.Line
import NetworkPortal.Plugin.Discovery

/-! # Carrying out commands -/
namespace NetworkPortal.Command

inductive Outcome where
  | printed (text : String)
  /-- The command failed after it had printed something. -/
  | failed (printed : String) (error : Error)
  | serving (settings : Settings)
  | refused (refusal : Refusal)
  deriving DecidableEq

namespace Outcome

def versionText : String := "netfront 0.1.0\n"

def helpText : String :=
  "Server-rendered front-end for network-management APIs\n\n" ++
  "Usage: netfront [OPTIONS] <serve|config|plugins>\n"

def standardOutput : Outcome → String
  | .printed text => text
  | .failed before _ => before
  | .serving _ => ""
  | .refused .version => versionText
  | .refused .help => helpText
  | .refused .misuse => ""

def exitStatus : Outcome → Nat
  | .printed _ => 0
  | .failed _ _ => 1
  | .serving _ => 0
  | .refused .misuse => 2
  | .refused _ => 0

def report? : Outcome → Option String
  | .failed _ error => some error.report
  | _ => none

end Outcome

def pluginLine (plugin : Plugin.Registration) : String :=
  "  " ++ plugin.title ++ " (" ++ plugin.identifier ++ ") -> /plugins/" ++ plugin.mountPath ++ "\n"

def listPlugins (storage : Storage) (settings : Settings) : Outcome :=
  let head := "Plugin directory: " ++ settings.plugins.directory ++ "\n"
  if !settings.plugins.enabled then .printed (head ++ "Plugins are disabled\n")
  else
    match Plugin.discover storage settings.plugins.directory with
    | .error fault => .failed head (.storage fault)
    | .ok [] => .printed (head ++ "No plugins installed\n")
    | .ok plugins => .printed (head ++ String.join (plugins.map pluginLine))

def perform (storage : Storage) (vars : Settings.Variables) (settings : Settings) :
    Task → Outcome
  | .serve changes =>
    match settings.changed changes with
    | .ok settings => .serving settings
    | .error error => .failed "" error
  | .config showDefaults =>
    let shown := if showDefaults then .defaults (Settings.pluginDirectory vars) else settings
    .printed (shown.write ++ "\n")
  | .plugins => listPlugins storage settings

/-- Carries out a command line. The settings are found first, whatever the task. -/
def run (storage : Storage) (vars : Settings.Variables) (arguments : List String) : Outcome :=
  match Line.parse vars arguments with
  | .error refusal => .refused refusal
  | .ok line =>
    match Settings.resolve storage vars line.settingsPath with
    | .error error => .failed "" error
    | .ok settings => perform storage vars settings line.task

end NetworkPortal.Command
