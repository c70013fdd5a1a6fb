import ProcTrace.Json.Writer
import ProcTrace.Timestamp.Writer
import ProcTrace.Wire.Message

/-!
# Writing messages

The JSON texts of the records of `ProcTrace.Wire.Message`: every member is written, in the order of
the record.
-/

namespace ProcTrace

open Json (writeObject writeList writeNat writeText)

def RegisterRequest.json (x : RegisterRequest) : List Char :=
  writeObject [("pid", writeNat x.pid.toNat)]

def RegisterResponse.json (x : RegisterResponse) : List Char :=
  writeObject [("pid", writeNat x.pid.toNat), ("threads", writeNat x.threads.toNat),
    ("message", writeText x.message.toList)]

def ProcessInfo.json (x : ProcessInfo) : List Char :=
  writeObject [("pid", writeNat x.pid.toNat), ("thread_count", writeNat x.threadCount.toNat),
    ("registered_at", writeText (Timestamp.write x.registeredAt))]

def ListResponse.json (x : ListResponse) : List Char :=
  writeObject [("processes", writeList (x.processes.map ProcessInfo.json)),
    ("total", writeNat x.total.toNat)]

def ErrorResponse.json (x : ErrorResponse) : List Char :=
  writeObject [("error", writeText x.error.toList)]

def ServiceConfig.json (x : ServiceConfig) : List Char :=
  writeObject [("url", writeText x.url.toList)]

def TracerConfig.json (x : TracerConfig) : List Char :=
  writeObject [("service", x.service.json)]

end ProcTrace
