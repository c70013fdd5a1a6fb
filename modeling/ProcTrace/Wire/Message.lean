import ProcTrace.Timestamp.Instant

/-!
# Messages of the tracing service

The records that a client and the tracing service exchange, and the record of the client's
configuration. The service keeps a set of registered processes under its resource `pids`; a process
is known by its number.
-/

namespace ProcTrace

/-- The number of a process. -/
abbrev Pid := UInt32

/-- The body of a registration. -/
structure RegisterRequest where
  pid : Pid
  deriving DecidableEq

/-- The body of the answer to a registration. -/
structure RegisterResponse where
  pid : Pid
  threads : UInt64
  message : String
  deriving DecidableEq

/-- A process that is being traced. -/
structure ProcessInfo where
  pid : Pid
  threadCount : UInt64
  registeredAt : Timestamp.Instant
  deriving DecidableEq

/-- The body of the answer to a query for all processes. -/
structure ListResponse where
  processes : List ProcessInfo
  total : UInt64
  deriving DecidableEq

/-- The body of an answer that reports a failure. -/
structure ErrorResponse where
  error : String
  deriving DecidableEq

/-- Where the service is taken to be when nothing else is said. -/
def defaultServiceUrl : String := "http://localhost:9092"

/-- The part of the configuration that concerns the service. -/
structure ServiceConfig where
  url : String
  deriving DecidableEq

/-- The configuration of a client. -/
structure TracerConfig where
  service : ServiceConfig
  deriving DecidableEq

/-- The configuration of a client that nobody configured. -/
def TracerConfig.default : TracerConfig :=
  ⟨⟨defaultServiceUrl⟩⟩

end ProcTrace
