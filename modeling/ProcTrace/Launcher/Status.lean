/-!
# Ends of programs

How a program that was started ended, and why one could not be started or waited for.
-/

namespace ProcTrace.Launcher

/-- How a program ended: with a code, or by a signal. -/
inductive ExitStatus where
  | code (n : UInt8)
  | signal (n : Nat)
  deriving DecidableEq, Repr

namespace ExitStatus

/-- The names of signals, from the first on. -/
def signalNames : List String :=
  ["HUP", "INT", "QUIT", "ILL", "TRAP", "ABRT", "BUS", "FPE", "KILL", "USR1", "SEGV", "USR2",
    "PIPE", "ALRM", "TERM", "STKFLT", "CHLD", "CONT", "STOP", "TSTP", "TTIN", "TTOU", "URG", "XCPU",
    "XFSZ", "VTALRM", "PROF", "WINCH", "IO", "PWR", "SYS"]

/-- The name of a signal. -/
def signalName? (n : Nat) : Option String :=
  if n = 0 then none else signalNames[n - 1]?

/-- The words for an end. -/
def describe : ExitStatus → String
  | .code n => s!"exit status: {n}"
  | .signal n =>
    s!"signal: {n}" ++ match signalName? n with
      | some name => " (SIG" ++ name ++ ")"
      | none => ""

/-- The code for a failure that has no code of its own. -/
def failureCode : UInt8 := 1

/-- The code that stands for an end. -/
def exitCode : ExitStatus → UInt8
  | .code n => n
  | .signal _ => failureCode

/-- The code that a shell has for an end. -/
def shellCode : ExitStatus → UInt8
  | .code n => n
  | .signal n => .ofNat (128 + n)

end ExitStatus

/-- Why a program could not be started. -/
inductive StartFailure where
  | notFound
  | denied
  | notDirectory
  | nameTooLong
  deriving DecidableEq, Repr

/-- The words for a failure, with its number. -/
def StartFailure.message : StartFailure → String
  | .notFound => "No such file or directory (os error 2)"
  | .denied => "Permission denied (os error 13)"
  | .notDirectory => "Not a directory (os error 20)"
  | .nameTooLong => "File name too long (os error 36)"

/-- Why the end of a program that was started could not be waited for. -/
inductive WaitFailure where
  /-- Somebody else has been told of the end. -/
  | noChild
  deriving DecidableEq, Repr

/-- The words for a failure, with its number. -/
def WaitFailure.message : WaitFailure → String
  | .noChild => "No child processes (os error 10)"

end ProcTrace.Launcher
