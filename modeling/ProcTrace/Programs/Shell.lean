import ProcTrace.Launcher.Basic
import ProcTrace.Programs.Script

/-!
# A small shell

Runs the commands of a script. The shell has variables, an input of which commands read lines, and
an output that they write to; every command has a status, and the status of the last one is the
code that the shell ends with. A command can end the shell early, with a code or by a signal.
-/

namespace ProcTrace.Programs

open Launcher

/-- A shell while it runs. -/
structure Shell where
  /-- The number of the shell, and of the program that started it. -/
  pid : Pid
  parent : Pid
  /-- The name that the shell was given, and the arguments of the script. -/
  name : List Char
  arguments : List (List Char)
  bindings : List (List Char × List Char)
  /-- Whether `echo` replaces escapes; not every shell has it do so. -/
  echoEscapes : Bool := true
  input : List Char
  output : List Char := []
  status : UInt8 := 0
  /-- How the shell ended, if it did. -/
  ended : Option ExitStatus := none

namespace Shell

/-! ### Words -/

/-- The text of a number. -/
def numeral (n : Nat) : List Char :=
  Nat.toDigits 10 n

/-- The value of a parameter; one that is not set is empty. -/
def value (s : Shell) (name : List Char) : List Char :=
  match name with
  | ['$'] => numeral s.pid.toNat
  | ['?'] => numeral s.status.toNat
  | ['#'] => numeral s.arguments.length
  | ['@'] | ['*'] => [' '].intercalate s.arguments
  | ['0'] => s.name
  | _ =>
    if name.all Char.isDigit then (s.arguments[Nat.ofDigitChars 10 name 0 - 1]?).getD []
    else if name = "PPID".toList then numeral s.parent.toNat
    else (s.bindings.lookup name).getD []

/-- The blanks at which values fall apart. -/
def isSeparator (c : Char) : Bool :=
  c = ' ' || c = '\t' || c = '\n'

/-- The words that a value falls apart into; at its ends it may go on with the words beside it. -/
def splitWords (cs : List Char) : List (List Char) :=
  cs.splitOnP isSeparator

/-- The words that a word stands for. The unfinished one is told apart from those before it. -/
def expandPieces (s : Shell) : Word → List (List Char) → Option (List Char) → List (List Char)
  | [], done, current => done ++ current.toList
  | .text cs :: rest, done, current => expandPieces s rest done (some (current.getD [] ++ cs))
  | .parameter name true :: rest, done, current =>
    expandPieces s rest done (some (current.getD [] ++ s.value name))
  | .parameter name false :: rest, done, current =>
    match splitWords (s.value name) with
    | [] => expandPieces s rest done current
    | [one] =>
      expandPieces s rest done (if one = [] then current else some (current.getD [] ++ one))
    | first :: others =>
      let first := if first = [] then current else some (current.getD [] ++ first)
      let last := others.getLast?.getD []
      expandPieces s rest (done ++ first.toList ++ others.dropLast.filter (· ≠ []))
        (if last = [] then none else some last)

/-- The words that a word stands for. -/
def expand (s : Shell) (w : Word) : List (List Char) :=
  s.expandPieces w [] none

/-- The text that a word stands for where it cannot fall apart. -/
def expandWhole (s : Shell) (w : Word) : List Char :=
  w.flatMap fun
    | .text cs => cs
    | .parameter name _ => s.value name

/-- The name and the value of a word that sets a variable. -/
def assignment? (s : Shell) (w : Word) : Option (List Char × List Char) :=
  match w with
  | .text cs :: rest =>
    let name := cs.takeWhile isNameChar
    match cs.dropWhile isNameChar with
    | '=' :: v =>
      if name.head?.any isNameStart then some (name, s.expandWhole (.text v :: rest)) else none
    | _ => none
  | _ => none

/-! ### Writing -/

/-- The shell after something was written. -/
def write (s : Shell) (cs : List Char) : Shell :=
  { s with output := s.output ++ cs }

/-- The shell after a command with a status. -/
def withStatus (s : Shell) (n : UInt8) : Shell :=
  { s with status := n }

/-- The value of up to three octal digits, and the text after them. -/
def octal (cs : List Char) : Char × List Char :=
  let digits := (cs.take 3).takeWhile fun c => '0' ≤ c && c ≤ '7'
  (Char.ofNat (Nat.ofDigitChars 8 digits 0 % 256), cs.drop digits.length)

/-- A text with its escapes replaced, and whether one of them ends it. -/
def unescapeUpTo : Nat → List Char → List Char × Bool
  | 0, _ => ([], false)
  | _, [] => ([], false)
  | _ + 1, '\\' :: 'c' :: _ => ([], true)
  | n + 1, '\\' :: '0' :: r =>
    let (c, r) := octal r
    let (cs, stop) := unescapeUpTo n r
    (c :: cs, stop)
  | n + 1, '\\' :: c :: r =>
    let (cs, stop) := unescapeUpTo n r
    let written := match [('a', '\x07'), ('b', '\x08'), ('f', '\x0c'), ('n', '\n'), ('r', '\r'),
        ('t', '\t'), ('v', '\x0b'), ('\\', '\\')].lookup c with
      | some d => [d]
      | none => ['\\', c]
    (written ++ cs, stop)
  | n + 1, c :: r =>
    let (cs, stop) := unescapeUpTo n r
    (c :: cs, stop)

/-- A text with its escapes replaced, and whether one of them ends it. -/
def unescape (cs : List Char) : List Char × Bool :=
  unescapeUpTo cs.length cs

/-- Writes its words with blanks between them, and ends the line unless it is told not to. -/
def echo (s : Shell) (words : List (List Char)) : Shell :=
  let (words, ends) := match words with
    | ['-', 'n'] :: r => (r, false)
    | _ => (words, true)
  let line := [' '].intercalate words
  let (cs, stop) := if s.echoEscapes then unescape line else (line, false)
  (s.write (cs ++ if ends ∧ !stop then ['\n'] else [])).withStatus 0

/-- One use of a format, with the words that it has left. -/
def formatUpTo : Nat → List Char → List (List Char) → List Char × List (List Char)
  | 0, _, words => ([], words)
  | _, [], words => ([], words)
  | n + 1, '%' :: '%' :: r, words =>
    let (cs, words) := formatUpTo n r words
    ('%' :: cs, words)
  | n + 1, '%' :: c :: r, words =>
    if c = 's' ∨ c = 'd' ∨ c = 'i' ∨ c = 'b' then
      let word := words.headD (if c = 's' ∨ c = 'b' then [] else ['0'])
      let (cs, words) := formatUpTo n r words.tail
      (word ++ cs, words)
    else
      let (cs, words) := formatUpTo n r words
      ('%' :: c :: cs, words)
  | n + 1, c :: r, words =>
    let (cs, words) := formatUpTo n r words
    (c :: cs, words)

/-- Uses a format for as long as there are words left, at least once. -/
def formatAll : Nat → List Char → List (List Char) → List Char
  | 0, _, _ => []
  | n + 1, format, words =>
    let (cs, left) := formatUpTo format.length format words
    cs ++ if left = [] ∨ left.length = words.length then [] else formatAll n format left

/-- Writes its words by a format. -/
def printf (s : Shell) (words : List (List Char)) : Shell :=
  match words with
  | [] => s.withStatus 2
  | format :: words =>
    (s.write (formatAll (words.length + 1) (unescape format).1 words)).withStatus 0

/-! ### Reading -/

/-- The values that a line has for variables, of which the last one takes all that is left. -/
def share (line : List Char) : List (List Char) → List (List Char × List Char)
  | [] => []
  | [name] => [(name, (line.reverse.dropWhile isSeparator).reverse)]
  | name :: names =>
    (name, line.takeWhile (!isSeparator ·)) ::
      share ((line.dropWhile (!isSeparator ·)).dropWhile isSeparator) names

/-- Reads a line into variables. A line that does not end is read as well, but has no success. -/
def read (s : Shell) (names : List (List Char)) : Shell :=
  let names := names.filter (·.head? ≠ some '-')
  let line := s.input.takeWhile (· ≠ '\n')
  let rest := s.input.dropWhile (· ≠ '\n')
  { s with
    bindings := share (line.dropWhile isSeparator) names ++ s.bindings
    input := rest.drop 1
    status := if rest = [] then 1 else 0 }

/-- Writes out what is left of the input. -/
def cat (s : Shell) : Shell :=
  { s with output := s.output ++ s.input, input := [], status := 0 }

/-! ### Ending -/

/-- The code that a text stands for. -/
def code? (cs : List Char) : Option UInt8 :=
  if cs ≠ [] ∧ cs.all Char.isDigit then some (UInt8.ofNat (Nat.ofDigitChars 10 cs 0)) else none

/-- The code of a command that was used wrongly, of one that cannot be run, and of one that there is
not. -/
def misuseCode : UInt8 := 2

def notRunnableCode : UInt8 := 126

def unknownCode : UInt8 := 127

/-- Ends the shell with a code, or with the status of the last command. -/
def exit (s : Shell) (words : List (List Char)) : Shell :=
  let code := match words with
    | [] => s.status
    | w :: _ => (code? w).getD misuseCode
  { s with status := code, ended := some (.code code) }

/-- The signal that a text names, by its name or its number. -/
def signal? (cs : List Char) : Option Nat :=
  let name := String.ofList cs
  let name := if name.startsWith "SIG" then String.ofList (cs.drop 3) else name
  match code? cs with
  | some n => some n.toNat
  | none => (ExitStatus.signalNames.findIdx? (· = name)).map (· + 1)

/-- The signals that do not end a program that does nothing about them. -/
def harmlessSignals : List Nat := [0, 17, 18, 23, 28]

/-- The signal that ends a program politely. -/
def usualSignal : Nat := 15

/-- Sends a signal to a program; the shell can end itself this way. -/
def send (s : Shell) (signal : Option Nat) (target : List Char) : Shell :=
  match signal with
  | none => s.withStatus misuseCode
  | some n =>
    if target ≠ numeral s.pid.toNat then s.withStatus 1
    else if harmlessSignals.contains n then s.withStatus 0
    else { s with ended := some (.signal n) }

/-- Sends the signal that is asked for. -/
def kill (s : Shell) (words : List (List Char)) : Shell :=
  match words with
  | [['-', 's'], name, target] => s.send (signal? name) target
  | [['-', '-'], target] => s.send (some usualSignal) target
  | ['-' :: name, target] => s.send (signal? name) target
  | [target] => s.send (some usualSignal) target
  | _ => s.withStatus misuseCode

/-! ### Commands -/

/-- Compares texts. -/
def test (words : List (List Char)) : Bool :=
  match words with
  | [['-', 'n'], w] => w ≠ []
  | [['-', 'z'], w] => w = []
  | [a, ['='], b] => a = b
  | [a, ['!', '='], b] => a ≠ b
  | [w] => w ≠ []
  | _ => false

/-- The status of a success or a failure. -/
def statusOf (b : Bool) : UInt8 :=
  if b then 0 else 1

/-- Runs a command that the words name. -/
def perform (s : Shell) (words : List (List Char)) : Shell :=
  match words with
  | [] => s.withStatus 0
  | name :: words =>
    match String.ofList name with
    | "exit" => s.exit words
    | "kill" => s.kill words
    | "echo" => s.echo words
    | "printf" => s.printf words
    | "read" => s.read words
    | "cat" => s.cat
    | "true" | ":" | "sleep" => s.withStatus 0
    | "false" => s.withStatus 1
    | "test" => s.withStatus (statusOf (test words))
    | "[" => s.withStatus (statusOf (test words.dropLast))
    | name => s.withStatus (if name = "/etc/passwd" then notRunnableCode else unknownCode)

/-- Runs the words of a command, of which a first `exec` ends the shell with what follows. -/
def performAll (s : Shell) (words : List (List Char)) : Shell :=
  match words with
  | ['e', 'x', 'e', 'c'] :: words =>
    let s := s.perform words
    if words = [] ∨ s.ended.isSome then s else { s with ended := some (.code s.status) }
  | _ => s.perform words

/-- The words of a command, and the variables that are set in front of them. -/
def wordsOf (s : Shell) : List Word → List (List Char × List Char) × List (List Char)
  | [] => ([], [])
  | w :: rest =>
    match s.assignment? w with
    | some a =>
      let (more, words) := wordsOf s rest
      (a :: more, words)
    | none => ([], (w :: rest).flatMap s.expand)

/-- The output of a command goes elsewhere. -/
def isSentAway (c : Command) : Bool :=
  c.parts.any fun
    | .redirection r => r.stream = 1 && !(r.duplicates && r.target = [.text ['1']])
    | .word _ => false

/-- The command has an input of its own, which is empty. -/
def hasOwnInput (c : Command) : Bool :=
  c.parts.any fun
    | .redirection r => r.stream = 0
    | .word _ => false

/-- The words of a command. -/
def commandWords (c : Command) : List Word :=
  c.parts.filterMap fun
    | .word w => some w
    | .redirection _ => none

/-- Runs a command. -/
def runCommand (s : Shell) (c : Command) : Shell :=
  let words := commandWords c
  if words = [] then s
  else
    let (assignments, words) := s.wordsOf words
    let before := { s with
      bindings := assignments ++ s.bindings
      input := if hasOwnInput c then [] else s.input }
    let after := before.performAll words
    { after with
      output := if isSentAway c then s.output else after.output
      input := if hasOwnInput c then s.input else after.input }

/-- The command is run after one with the given status. -/
def Condition.holds : Condition → UInt8 → Bool
  | .always, _ => true
  | .afterSuccess, n => n = 0
  | .afterFailure, n => n ≠ 0

/-- Runs commands in their order, as long as the shell has not ended. -/
def runAll (s : Shell) (cs : List Command) : Shell :=
  cs.foldl
    (fun s c =>
      if s.ended.isNone && Condition.holds c.condition s.status then s.runCommand c else s) s

/-- Runs a script; one that cannot be read is misuse. -/
def runScript (s : Shell) (text : List Char) : Shell :=
  match readScript text with
  | some cs => s.runAll cs
  | none => s.withStatus misuseCode

/-- How the shell ended once there is nothing left to do. -/
def result (s : Shell) : ExitStatus :=
  s.ended.getD (.code s.status)

end Shell

end ProcTrace.Programs
