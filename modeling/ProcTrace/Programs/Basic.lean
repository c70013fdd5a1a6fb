import ProcTrace.Programs.Shell

/-!
# Programs that can be started

The programs of a small machine. A name without a slash is looked for among the installed programs,
and a path has to lead to one of them. What is there and is no program may not be started.
-/

namespace ProcTrace.Programs

open Launcher

/-- The names under which the shell is installed. -/
def shells : List String := ["sh", "dash", "bash"]

/-- The names of the shells whose `echo` replaces escapes. -/
def escapingShells : List String := ["sh", "dash"]

/-- The names of the installed programs. -/
def installed : List String :=
  shells ++ ["true", "false", "echo", "printf", "cat", "sleep", "test", "["]

/-- The directories of the installed programs. -/
def programDirectories : List String := ["/bin", "/usr/bin"]

/-- Files that are no programs. -/
def plainFiles : List String :=
  ["/etc/passwd", "/etc/group", "/etc/hosts", "/etc/hostname", "/dev/null"]

/-- Directories. -/
def directories : List String :=
  ["", "/bin", "/usr", "/usr/bin", "/etc", "/dev", "/tmp", "/home", "/root", "/var", "/proc",
    "/sys", ".", ".."]

/-- The longest name of a file. -/
def nameLengthMax : Nat := 255

/-- A path without the slashes at its end. -/
def trimSlashes (path : String) : String :=
  String.ofList (path.toList.reverse.dropWhile (· = '/')).reverse

/-- The installed program that a name or a path stands for. -/
def find (program : String) : Except StartFailure String :=
  let parts := program.splitOn "/"
  let bare := trimSlashes program
  if parts.any (nameLengthMax < ·.utf8ByteSize) then .error .nameTooLong
  else if parts.length = 1 then
    if installed.contains program then .ok program
    else if program = "." ∨ program = ".." then .error .denied
    else .error .notFound
  else
    let directory := "/".intercalate parts.dropLast
    let name := parts.getLast?.getD ""
    if programDirectories.contains directory ∧ installed.contains name then .ok name
    else if directories.contains bare then .error .denied
    else if plainFiles.contains program then .error .denied
    else if plainFiles.any fun f => (f ++ "/").isPrefixOf program then .error .notDirectory
    else .error .notFound

/-- The arguments of a shell: the script, the name that it is given, and its arguments. Without a
script the shell reads one from its input. -/
def shellArguments (name : String) (args : List String) :
    Option String × String × List String :=
  match args with
  | "-c" :: script :: given :: rest => (some script, given, rest)
  | ["-c", script] => (some script, name, [])
  | _ => (none, name, [])

/-- Starts a program as the child of another one: with its number, an environment, and an input. -/
def start (pid parent : Pid) (environment : Settings.Environment) (input : List Char)
    (program : String) (args : List String) : Except StartFailure Child :=
  (find program).map fun name =>
    let shell : Shell :=
      { pid, parent, name := program.toList, arguments := [], input
        bindings := environment.map fun (k, v) => (k.toList, v.toList)
        echoEscapes := escapingShells.contains name }
    let done :=
      if shells.contains name then
        let (script, given, rest) := shellArguments program args
        let shell := { shell with name := given.toList, arguments := rest.map String.toList }
        match script with
        | some text => shell.runScript text.toList
        | none => { shell with input := [] }.runScript input
      else shell.perform (name.toList :: args.map String.toList)
    { pid, output := done.output, status := .ok done.result }

end ProcTrace.Programs
