import ProcTrace.Decimal.Shortest
import ProcTrace.Text.Quoted

/-!
# Faults of the configuration

What keeps a configuration from being used: a file that is not well-formed, or a setting of the
wrong kind. A setting of the wrong kind is named by its key, and by its **origin** if it was taken
from a file unchanged.
-/

namespace ProcTrace.Settings

/-- A setting that is not made of other settings. -/
inductive Scalar where
  | text (s : String)
  | integer (n : Int)
  | floating (d : Decimal.Double)
  | flag (b : Bool)
  deriving DecidableEq, Repr

/-- Floating point numbers as texts have no exponent, and no point unless there is a fraction. -/
def textLayout : Decimal.Layout :=
  ⟨none, 0, false⟩

/-- Floating point numbers in messages always show a point. -/
def messageLayout : Decimal.Layout :=
  ⟨none, 0, true⟩

/-- The text that a setting is where a text is wanted. -/
def Scalar.toText : Scalar → String
  | .text s => s
  | .integer n => toString n
  | .floating d => String.ofList (textLayout.text d)
  | .flag b => if b then "true" else "false"

/-- The words for a setting. -/
def Scalar.describe : Scalar → String
  | .text s => "string " ++ String.ofList (Text.quote s.toList)
  | .integer n => s!"integer `{n}`"
  | .floating d => "floating point `" ++ String.ofList (messageLayout.text d) ++ "`"
  | .flag b => if b then "boolean `true`" else "boolean `false`"

/-- What stood where something else was wanted. -/
inductive Found where
  | nothing
  | scalar (s : Scalar)
  | list
  | table
  deriving DecidableEq, Repr

/-- The words for what was found. -/
def Found.describe : Found → String
  | .nothing => "unit value"
  | .scalar s => s.describe
  | .list => "sequence"
  | .table => "map"

/-- What keeps a configuration from being used. -/
inductive Fault where
  /-- The file is not well-formed at a place, whose line and column are counted from one. -/
  | illFormed (line column : Nat)
  /-- The settings of the service are neither a table nor a list. -/
  | notSettings (found : Found)
  /-- The setting cannot be a text. -/
  | notText (found : Found) (key : String) (origin : Option String)
  deriving DecidableEq, Repr

/-- The text of a fault. -/
def Fault.message : Fault → String
  | .illFormed line column => s!"TOML parse error at line {line}, column {column}"
  | .notSettings found => "invalid type: " ++ found.describe ++ ", expected struct ServiceConfig"
  | .notText found key origin =>
    "invalid type: " ++ found.describe ++ ", expected a string for key `" ++ key ++ "`" ++
      match origin with
      | some o => " in " ++ o
      | none => ""

end ProcTrace.Settings
