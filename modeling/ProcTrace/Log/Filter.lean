import ProcTrace.Log.Level
import ProcTrace.Text.Blank

/-!
# Filters of log lines

Which events are shown is said by **directives** between commas: a threshold, a target, or a target
with a threshold after an equals sign. A directive may also name a span and fields between brackets.
An event is shown if the most specific directive that is about it shows its level
(`Filter.shows`); a directive about a target is about all targets that start with it. Where one
directive cannot be read, none of them counts.
-/

namespace ProcTrace.Log

/-- A directive about the events of a target, or of all targets, that have certain fields. -/
structure Directive where
  target : Option (List Char)
  fields : List (List Char)
  threshold : Nat
  deriving DecidableEq, Repr

/-- Directives in the order in which they were written. -/
abbrev Filter := List Directive

/-! ### Choosing -/

/-- The only field of an event. -/
def messageField : List Char := "message".toList

/-- The directive is about the events of a target. -/
def Directive.isAbout (d : Directive) (target : List Char) : Bool :=
  d.target.all (·.isPrefixOf target) && d.fields.all (· = messageField)

/-- One directive is at least as specific as another: its target is longer, or as long and it names
as many fields. -/
def Directive.isAtLeast (d e : Directive) : Bool :=
  let size (d : Directive) : Nat := (d.target.map (·.length + 1)).getD 0
  size e < size d || (size e = size d && e.fields.length ≤ d.fields.length)

/-- The most specific directive about a target; of equally specific ones the last. -/
def Filter.best? (f : Filter) (target : List Char) : Option Directive :=
  (f.filter (·.isAbout target)).foldl
    (fun best d => match best with
      | some b => if d.isAtLeast b then some d else some b
      | none => some d)
    none

/-- The filter shows the events of a target and a level. -/
def Filter.shows (f : Filter) (target : String) (level : Level) : Bool :=
  (f.best? target.toList).any (level.rank ≤ ·.threshold)

/-! ### Reading -/

/-- What a directive says: about which span it is, if it names one, which fields with or without a
value, and the rest. -/
structure Draft where
  target : Option (List Char) := none
  span : Option (List Char) := none
  field : Option (List Char) := none
  threshold : Nat := thresholdMax

/-- The directive of a draft. One that is about a span, or about the value of a field, is about
nothing that is shown here. -/
def Draft.directive? (d : Draft) : Option Directive :=
  if d.span.isSome ∨ d.field.any (·.contains '=') then none
  else some { target := d.target, fields := d.field.toList, threshold := d.threshold }

/-- The character may start a directive. -/
def isStart (c : Char) : Bool :=
  c.isAlphanum || 128 ≤ c.toNat || c = '-' || c = ':' || c = '_'

/-- The threshold of the text after an equals sign, which is the greatest if there is none. -/
def thresholdOf (cs : List Char) : Option Nat :=
  if cs = [] then some thresholdMax else threshold? cs

/-- The part of a text from one position up to another. -/
def slice (cs : List Char) (start stop : Nat) : List Char :=
  (cs.take stop).drop start

/-- The rest of a directive, from a position on, after its brackets. -/
def readThreshold (text trimmed : List Char) (i : Nat) (d : Draft) : Option Draft :=
  match trimmed.drop i with
  | [] => some d
  | '=' :: _ => (thresholdOf (text.drop (i + 1))).map fun n => { d with threshold := n }
  | _ => none

/-- The rest of a directive, from a position on, between its brackets. -/
def readBrackets (text trimmed : List Char) (i : Nat) (d : Draft) : Option Draft :=
  let rest := trimmed.drop i
  let stop := i + (rest.takeWhile fun c => c ≠ ']' ∧ c ≠ '\x7b').length
  let name := slice text i stop
  match trimmed.drop stop with
  | ']' :: _ => readThreshold text trimmed (stop + 1) { d with span := some name }
  | '\x7b' :: r =>
    let close := stop + 1 + (r.takeWhile (· ≠ '\x7d')).length
    let field := slice text (stop + 1) close
    match trimmed.drop close with
    | '\x7d' :: ']' :: _ =>
      if field = [] then none
      else readThreshold text trimmed (close + 2)
        { d with span := if name = [] then none else some name, field := some field }
    | _ => none
  | _ => none

/-- Reads a directive. Its marks are looked for without the blanks around it, and its parts are then
cut at the same positions from the text as it stands. -/
def readDirective (text : List Char) : Option Draft :=
  let trimmed := Text.trim text
  match trimmed with
  | [] => none
  | '[' :: _ => readBrackets text trimmed 1 {}
  | c :: _ =>
    if isStart c then
      let stop := (trimmed.takeWhile fun c => c ≠ '=' ∧ c ≠ '[').length
      let target := some (slice text 0 stop)
      match trimmed.drop stop with
      | '=' :: _ => readThreshold text trimmed stop { target }
      | '[' :: _ => readBrackets text trimmed (stop + 1) { target }
      | _ =>
        match threshold? text with
        | some n => some { threshold := n }
        | none => some { target := some text }
    else none

/-- The filter of a text, if all of its directives can be read. Empty directives are left out. -/
def Filter.read (text : List Char) : Option Filter :=
  (((text.splitOn ',').filter (· ≠ [])).mapM readDirective).map (·.filterMap Draft.directive?)

/-- The filter that is used when nothing else is said. -/
def Filter.default : Filter :=
  [⟨none, [], Level.info.rank⟩, ⟨some "write_tracer_client".toList, [], Level.debug.rank⟩]

/-- The filter that the variable of the environment says, or the default. -/
def Filter.ofVariable (text : Option String) : Filter :=
  (text.bind fun t => Filter.read t.toList).getD .default

end ProcTrace.Log
