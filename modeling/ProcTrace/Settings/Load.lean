import ProcTrace.Settings.Files
import ProcTrace.Settings.Path
import ProcTrace.Toml.Document
import ProcTrace.Wire.Message

/-!
# Loading the configuration

The configuration is made of three layers of settings, each laid over the ones before it:

* **Defaults**: the service is on the same machine.
* **File**: the settings of a TOML file, if there is one. A file that is not a text counts as
  missing; one that is not well-formed is a fault.
* **Environment**: the variables whose names start with `WRITE_TRACER_`, in any case. An underscore
  in the rest of the name leads into a table.

A layer of the file or the environment may end the process instead of being laid over the others
(`Crash`). A file that is not well-formed is seen before that.
-/

namespace ProcTrace.Settings

/-- The variables of the environment. -/
abbrev Environment := List (String × String)

/-- What a configuration is loaded from: the files, the environment, and the home directory of the
account, which stands in for one that the environment does not name. -/
structure Host where
  files : Files
  environment : Environment
  accountHome : String

/-- Settings, each with the path that leads to it. -/
abbrev Layer := List (List Step × Node)

/-- The settings laid over a tree in their order. -/
def Layer.over (room : Room) (l : Layer) (n : Node) : Except Crash Node :=
  l.foldlM (fun n (path, new) => Node.put room new path n) n

/-! ### Layers -/

/-- The settings of a client that nobody configured. -/
def defaults : Layer :=
  [([.key "service"], .table none [("url", .scalar (.text TracerConfig.default.service.url))])]

/-- What is appended to the name of a file that there is none of. -/
def fileExtension : String := ".toml"

/-- The file that a path stands for, with the path that leads to it: the file at the path itself, or
else the one with the extension in its name. -/
def findFile (fs : Files) (path : String) : Option (String × Text.Bytes) :=
  match fs.read? path with
  | some bytes => some (path, bytes)
  | none => do
    let path ← Files.extend? path fileExtension
    some (path, ← fs.read? path)

/-- The settings of the file that a path stands for. -/
def fileLayer (fs : Files) (path : String) : Except Fault Layer :=
  match findFile fs path with
  | none => .ok []
  | some (found, bytes) =>
    match Text.Utf8.decode? bytes with
    | none => .ok []
    | some cs =>
      match Toml.parse (String.ofList cs) with
      | .ok members =>
        .ok (members.map fun (key, v) =>
          (Settings.path key, Node.ofToml (Files.shown found) v))
      | .error place => .error (.illFormed place.line place.column)

/-- What the names of the client's variables start with, in small letters. -/
def variableStart : List Char :=
  "write_tracer_".toList

/-- The key that the name of a variable stands for, if the variable is the client's. -/
def variableKey? (name : String) : Option String :=
  let cs := (lower name).toList
  if variableStart.isPrefixOf cs then
    some (String.ofList ((cs.drop variableStart.length).map fun c => if c = '_' then '.' else c))
  else none

/-- The settings of the environment, all of which are texts. -/
def environmentLayer (env : Environment) : Layer :=
  env.filterMap fun (name, v) =>
    (variableKey? name).map fun key => (Settings.path key, .scalar (.text v))

/-! ### The configuration -/

/-- A setting as a text. -/
def textOf (key : String) : Node → Except Fault String
  | .scalar s => .ok s.toText
  | .nothing => .error (.notText .nothing key none)
  | .list origin _ => .error (.notText .list key origin)
  | .table origin _ => .error (.notText .table key origin)

/-- The settings of the service: a table with a URL, or a list that starts with one. -/
def serviceOf : Node → Except Fault ServiceConfig
  | .table _ entries =>
    match entries.lookup "url" with
    | some n => (textOf "service.url" n).map (⟨·⟩)
    | none => .ok TracerConfig.default.service
  | .list _ (n :: _) => (textOf "service[0]" n).map (⟨·⟩)
  | .list _ [] => .ok TracerConfig.default.service
  | n => .error (.notSettings n.found)

/-- The configuration that a tree of settings stands for. -/
def configOf (n : Node) : Except Fault TracerConfig :=
  match n.entry? "service" with
  | some n => (serviceOf n).map (⟨·⟩)
  | none => .ok .default

/-- The configuration of the environment, the settings of a file and the defaults. -/
def configWith (room : Room) (env : Environment) (file : Layer) :
    Except Crash (Except Fault TracerConfig) := do
  let n ← defaults.over room .empty
  let n ← file.over room n
  let n ← (environmentLayer env).over room n
  .ok (configOf n)

/-- The configuration with the file at a path. -/
def loadFrom (room : Room) (h : Host) (path : String) :
    Except Crash (Except Fault TracerConfig) :=
  match fileLayer h.files path with
  | .ok file => configWith room h.environment file
  | .error f => .ok (.error f)

/-! ### The usual file -/

/-- The value of a variable, unless it is empty. -/
def Environment.get? (env : Environment) (name : String) : Option String :=
  (env.lookup name).filter (· ≠ "")

/-- The directory of configurations: a fixed place if the environment names one, or else a directory
in the home directory. -/
def configDirectory (h : Host) : String :=
  match (h.environment.get? "XDG_CONFIG_HOME").filter Files.isAbsolute with
  | some directory => directory
  | none => Files.join ((h.environment.get? "HOME").getD h.accountHome) ".config"

/-- The path of the usual file. -/
def configPath (h : Host) : String :=
  Files.join (Files.join (configDirectory h) "write-tracer") "client.toml"

/-- The configuration with the usual file. -/
def load (room : Room) (h : Host) : Except Crash (Except Fault TracerConfig) :=
  loadFrom room h (configPath h)

end ProcTrace.Settings
