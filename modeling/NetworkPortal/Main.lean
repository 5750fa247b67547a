import NetworkPortal.Command.Run

/-! # The program

Copies what a command can ask for from the machine into a storage, carries the command out on it,
and prints what comes of it. The program has no network to listen on.
-/
namespace NetworkPortal

def variableNames : List String :=
  ["HOME", "XDG_DATA_HOME", "XDG_CONFIG_HOME", Settings.apiUrlVariable, Command.settingsVariable]

def readVariables : IO Settings.Variables := do
  let given ← variableNames.filterMapM fun name => do
    return (← IO.getEnv name).map fun value => (name, value)
  return fun name => given.lookup name

/-- Puts what is at a path into a storage: the bytes of a file, or a directory without its
content. -/
def copyNode (storage : Storage) (path : String) : IO Storage := do
  let place := (← IO.currentDir) / path
  if ← place.isDir then return (storage.makeDirectory path).toOption.getD storage
  else if ← place.pathExists then
    return (storage.write path (← IO.FS.readBinFile place)).toOption.getD storage
  else return storage

def copyPlugins (storage : Storage) (path : String) : IO Storage := do
  let place := (← IO.currentDir) / path
  let mut copied ← copyNode storage path
  if ← place.isDir then
    for entry in ← place.readDir do
      let directory := Storage.Path.join path entry.fileName
      copied ← copyNode copied directory
      copied ← copyNode copied (Storage.Path.join directory Plugin.Manifest.fileName)
  return copied

def copyFor (vars : Settings.Variables) (arguments : List String) : IO Storage := do
  let here := toString (← IO.currentDir)
  let bare : Storage := { start := Storage.Path.steps here }
  let storage := (bare.makeDirectory here).toOption.getD bare
  let .ok line := Command.Line.parse vars arguments | return storage
  let path := line.settingsPath.or (Settings.defaultPath? vars)
  let storage ← match path with
    | some path => copyNode storage path
    | none => pure storage
  match Settings.resolve storage vars line.settingsPath with
  | .ok settings => copyPlugins storage settings.plugins.directory
  | .error _ => return storage

def conclude (outcome : Command.Outcome) : IO UInt32 := do
  IO.print outcome.standardOutput
  if let some report := outcome.report? then IO.eprintln report
  if let .serving settings := outcome then
    IO.eprintln ("no network to listen on as " ++ settings.server.host)
    return 1
  return .ofNat outcome.exitStatus

end NetworkPortal

def main (arguments : List String) : IO UInt32 := do
  let vars ← NetworkPortal.readVariables
  let storage ← NetworkPortal.copyFor vars arguments
  NetworkPortal.conclude (NetworkPortal.Command.run storage vars arguments)
