import NetworkPortal.Command.Options
import NetworkPortal.Settings.Resolution

/-! # The command line

`serve`, `config` and `plugins`, each with options of its own, after options for all of them.
-/
namespace NetworkPortal.Command

inductive Task where
  | serve (changes : List Settings.Change)
  | config (showDefaults : Bool)
  | plugins
  deriving DecidableEq

structure Line where
  settingsPath : Option String
  task : Task
  deriving DecidableEq

def helpChoice : Choice := ⟨"help", some 'h', .help⟩

def commonChoices : List Choice :=
  [⟨"config", some 'c', .path⟩, ⟨"verbose", some 'v', .flag⟩, ⟨"json-logs", none, .flag⟩,
    helpChoice, ⟨"version", some 'V', .version⟩]

def serveChoices : List Choice :=
  [⟨"host", none, .text⟩, ⟨"port", none, .port⟩, ⟨"api-url", none, .text⟩, helpChoice]

def configChoices : List Choice := [⟨"default", none, .flag⟩, helpChoice]

def pluginsChoices : List Choice := [helpChoice]

def scanTask (choices : List Choice) (arguments : List String) : Except Refusal Settled :=
  match scan choices none [] arguments with
  | .ok (settled, []) => .ok settled
  | .ok _ => .error .misuse
  | .error refusal => .error refusal

def changesOf (settled : Settled) : List Settings.Change :=
  settled.filterMap fun (name, given) =>
    match name, given with
    | "host", .text host => some (.host host)
    | "port", .number port => some (.port port)
    | "api-url", .text url => some (.apiUrl url)
    | _, _ => none

/-- What `help` may be asked about, one word at most. -/
def helpTopics : List String := ["serve", "config", "plugins", "help"]

def readHelp : List String → Refusal
  | [] => .help
  | [topic] => if topic ∈ helpTopics then .help else .misuse
  | _ => .misuse

def readTask (word : String) (arguments : List String) : Except Refusal Task :=
  if word = "serve" then
    (scanTask serveChoices arguments).map fun settled => .serve (changesOf settled)
  else if word = "config" then
    (scanTask configChoices arguments).map fun settled => .config !settled.isEmpty
  else if word = "plugins" then (scanTask pluginsChoices arguments).map fun _ => .plugins
  else if word = "help" then .error (readHelp arguments)
  else .error .misuse

def settingsVariable : String := "NETFRONT_CONFIG"

/-- The file with the settings: from the command line, else from the environment. -/
def pathFor (vars : Settings.Variables) (settled : Settled) :
    Except Refusal (Option String) :=
  match Keyed.get? "config" settled with
  | some (.text path) => .ok (some path)
  | some _ => .error .misuse
  | none =>
    match vars settingsVariable with
    | some "" => .error .misuse
    | path => .ok path

def Line.parse (vars : Settings.Variables) (arguments : List String) : Except Refusal Line :=
  match scan commonChoices none [] arguments with
  | .error refusal => .error refusal
  | .ok (_, []) => .error .misuse
  | .ok (settled, word :: rest) =>
    match readTask word rest with
    | .error refusal => .error refusal
    | .ok task => (pathFor vars settled).map fun path => ⟨path, task⟩

end NetworkPortal.Command
