import ProcTrace.Launcher.Basic
import ProcTrace.Programs.Basic

/-!
# The command line

Runs the launcher on the arguments, on a machine that has nothing but the small programs of this
library and no network. The log is written after the output of the program.
-/

namespace ProcTrace.CommandLine

/-- The number of the launcher. -/
def launcherPid : Pid := 1

/-- The number of the program that the launcher starts. -/
def childPid : Pid := 2

/-- The variables of the environment that matter to the launcher. -/
def variableNames : List String :=
  ["HOME", "RUST_LOG", "WRITE_TRACER_SERVICE_URL", "XDG_CONFIG_HOME"]

/-- The variables of the environment that are set. -/
def readEnvironment : IO Settings.Environment :=
  variableNames.filterMapM fun name => do
    return (← IO.getEnv name).map (name, ·)

/-- The file at a path, if it can be read. -/
def readFile (path : String) : IO (List (List String × Text.Bytes)) := do
  try
    let bytes ← IO.FS.readBinFile path
    return [((Settings.Files.parts path).filter (· ≠ ""), bytes.toList)]
  catch _ => return []

/-- The input, up to the end of its first line or of all of it. -/
partial def readInput (onlyLine : Bool) (done : Text.Bytes := []) : IO Text.Bytes := do
  let bytes ← (← IO.getStdin).read 1
  match bytes.toList with
  | [] => return done.reverse
  | b :: _ =>
    if onlyLine && b = Launcher.lineEnd then return (b :: done).reverse
    else readInput onlyLine (b :: done)

/-- Writes the output and the log of a run. -/
def report (run : Launcher.Run) (filter : Log.Filter) : IO Unit := do
  let out ← IO.getStdout
  out.putStr (String.ofList run.output)
  for l in run.log filter do
    out.putStrLn (l.level.name ++ " " ++ l.target ++ ": " ++ l.text)

/-- Runs the launcher. -/
def runLauncher (args : List String) : IO UInt32 := do
  let environment ← readEnvironment
  let nowhere : Settings.Host := ⟨⟨[], []⟩, environment, "/root"⟩
  let contents ← readFile (Settings.configPath nowhere)
  let host := { nowhere with files := ⟨[], contents⟩ }
  let input ← readInput args.isEmpty
  let run := Launcher.run
    { room := .addressable, clientFailure? := none, net := .down, host, ownPid := launcherPid, input
      replies := []
      start := Programs.start childPid launcherPid environment (Text.Utf8.decode input) } args
  report run (Launcher.filterOf host)
  return run.status.shellCode.toUInt32

end ProcTrace.CommandLine

/-- Runs the launcher with the arguments of the command line. -/
def main (args : List String) : IO UInt32 :=
  ProcTrace.CommandLine.runLauncher args
