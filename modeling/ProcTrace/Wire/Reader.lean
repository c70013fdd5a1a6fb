import ProcTrace.Json.Record
import ProcTrace.Timestamp.Reader
import ProcTrace.Wire.Message

/-!
# Reading messages

The JSON readers of the records of `ProcTrace.Wire.Message`. Members may come in any order, unknown
ones are skipped, and those that have a default may be left out.
-/

namespace ProcTrace.Wire

open Json (Reader Member Record need)

/-- A number of 32 bits. -/
def word32 : Reader UInt32 :=
  (Json.natural (UInt32.size - 1) "u32").map UInt32.ofNat

/-- A number of 64 bits. -/
def word64 : Reader UInt64 :=
  (Json.natural (UInt64.size - 1) "usize").map UInt64.ofNat

/-- A timestamp in a text. -/
def instant : Reader Timestamp.Instant :=
  Json.textVia "an RFC 3339 formatted date and time string" fun cs =>
    match Timestamp.read cs with
    | .ok t => .ok t
    | .error e => .error e.message

/-! ### The request and the answer of a registration -/

def registerRequest : Record (Option Pid) RegisterRequest where
  name := "RegisterRequest"
  members := [⟨"pid", true, Option.isSome, word32.map fun pid _ => some pid⟩]
  draft := none
  build d := do
    let pid ← need "pid" d
    return { pid }

/-- The members of a `RegisterResponse` seen so far. -/
structure RegisterResponseDraft where
  pid : Option Pid := none
  threads : Option UInt64 := none
  message : Option String := none

def registerResponse : Record RegisterResponseDraft RegisterResponse where
  name := "RegisterResponse"
  members := [
    ⟨"pid", true, (·.pid.isSome), word32.map fun pid d => { d with pid := some pid }⟩,
    ⟨"threads", true, (·.threads.isSome), word64.map fun n d => { d with threads := some n }⟩,
    ⟨"message", false, (·.message.isSome), Json.text.map fun m d => { d with message := some m }⟩]
  draft := {}
  build d := do
    let pid ← need "pid" d.pid
    let threads ← need "threads" d.threads
    return { pid, threads, message := d.message.getD "" }

/-! ### Processes -/

/-- The members of a `ProcessInfo` seen so far. -/
structure ProcessInfoDraft where
  pid : Option Pid := none
  threadCount : Option UInt64 := none
  registeredAt : Option Timestamp.Instant := none

def processInfo : Record ProcessInfoDraft ProcessInfo where
  name := "ProcessInfo"
  members := [
    ⟨"pid", true, (·.pid.isSome), word32.map fun pid d => { d with pid := some pid }⟩,
    ⟨"thread_count", true, (·.threadCount.isSome),
      word64.map fun n d => { d with threadCount := some n }⟩,
    ⟨"registered_at", true, (·.registeredAt.isSome),
      instant.map fun t d => { d with registeredAt := some t }⟩]
  draft := {}
  build d := do
    let pid ← need "pid" d.pid
    let threadCount ← need "thread_count" d.threadCount
    let registeredAt ← need "registered_at" d.registeredAt
    return { pid, threadCount, registeredAt }

/-- The members of a `ListResponse` seen so far. -/
structure ListResponseDraft where
  processes : Option (List ProcessInfo) := none
  total : Option UInt64 := none

def listResponse : Record ListResponseDraft ListResponse where
  name := "ListResponse"
  members := [
    ⟨"processes", false, (·.processes.isSome),
      (Json.list processInfo.reader).map fun ps d => { d with processes := some ps }⟩,
    ⟨"total", false, (·.total.isSome), word64.map fun n d => { d with total := some n }⟩]
  draft := {}
  build d := .ok { processes := d.processes.getD [], total := d.total.getD 0 }

/-! ### Failures -/

def errorResponse : Record (Option String) ErrorResponse where
  name := "ErrorResponse"
  members := [⟨"error", true, Option.isSome, Json.text.map fun e _ => some e⟩]
  draft := none
  build d := do
    let error ← need "error" d
    return { error }

/-! ### The configuration -/

def serviceConfig : Record (Option String) ServiceConfig where
  name := "ServiceConfig"
  members := [⟨"url", false, Option.isSome, Json.text.map fun url _ => some url⟩]
  draft := none
  build d := .ok { url := d.getD defaultServiceUrl }

def tracerConfig : Record (Option ServiceConfig) TracerConfig where
  name := "TracerConfig"
  members := [⟨"service", false, Option.isSome, serviceConfig.reader.map fun s _ => some s⟩]
  draft := none
  build d := .ok { service := d.getD TracerConfig.default.service }

/-- The record that a text holds. -/
def parse {σ α : Type} (x : Record σ α) (text : String) : Except Json.Fault α :=
  Json.parse x.reader text.toList

end ProcTrace.Wire
