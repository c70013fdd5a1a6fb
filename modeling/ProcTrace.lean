import ProcTrace.Client.Program
import ProcTrace.Main
import ProcTrace.Proofs.Client.Acceptance
import ProcTrace.Proofs.Client.Bounding
import ProcTrace.Proofs.Client.Contract
import ProcTrace.Proofs.Client.Course
import ProcTrace.Proofs.Client.Diagnosis
import ProcTrace.Proofs.Client.Keeping
import ProcTrace.Proofs.Client.Naming
import ProcTrace.Proofs.Client.Requests
import ProcTrace.Proofs.Client.Resources
import ProcTrace.Proofs.Client.Results
import ProcTrace.Proofs.Client.Scopes
import ProcTrace.Proofs.Client.Verdicts
import ProcTrace.Proofs.Launcher.ExitCode
import ProcTrace.Proofs.Launcher.Script
import ProcTrace.Proofs.Settings.Beside
import ProcTrace.Proofs.Settings.Precedence
import ProcTrace.Proofs.Wire.Acceptance
import ProcTrace.Proofs.Wire.Moments
import ProcTrace.Proofs.Wire.Rejection
import ProcTrace.Proofs.Wire.RoundTrip
