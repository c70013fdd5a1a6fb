import ProcTrace.Url.Host

/-!
# URLs

A URL taken apart: scheme, authority, path, query and fragment, and the one text it is written as.
The schemes of the web are **special**: their URLs have a host and a path that starts with a slash.
-/

namespace ProcTrace

namespace Url

/-- The part of a URL that says where something is. A password is kept only if it is not empty. -/
structure Authority where
  username : List Char
  password : Option (List Char)
  host : Host
  port : Option Nat
  deriving DecidableEq, Repr

/-- The path of a URL: segments, or a text that is not taken apart. -/
inductive Path where
  | segments (ss : List (List Char))
  | opaqueText (cs : List Char)
  deriving DecidableEq, Repr

/-- The schemes whose URLs have a host and a path of segments, with their usual ports. -/
def specialSchemes : List (String × Option Nat) :=
  [("http", some 80), ("https", some 443), ("ws", some 80), ("wss", some 443), ("ftp", some 21),
    ("file", none)]

/-- The scheme is special. -/
def isSpecial (scheme : List Char) : Bool :=
  specialSchemes.any (·.1.toList == scheme)

/-- The port that need not be written. -/
def defaultPort (scheme : List Char) : Option Nat :=
  ((specialSchemes.find? (·.1.toList == scheme)).map (·.2)).join

end Url

/-- A URL. -/
structure Url where
  scheme : List Char
  authority : Option Url.Authority
  path : Url.Path
  query : Option (List Char)
  fragment : Option (List Char)
  deriving DecidableEq, Repr

namespace Url

/-- The user, the password and the at sign. -/
def Authority.writeUser (a : Authority) : List Char :=
  match a.password with
  | some p => a.username ++ ':' :: p ++ ['@']
  | none => if a.username = [] then [] else a.username ++ ['@']

/-- The host and a port that differs from the usual one. -/
def Authority.writeHost (a : Authority) : List Char :=
  a.host.write ++ match a.port with
    | some n => ':' :: Nat.toDigits 10 n
    | none => []

/-- The text of a path. -/
def Path.write : Path → List Char
  | .segments ss => ss.flatMap ('/' :: ·)
  | .opaqueText cs => cs

/-- The text of an optional part after its mark. -/
def writePart (mark : Char) : Option (List Char) → List Char
  | some cs => mark :: cs
  | none => []

/-- The text between the scheme and the path. Without an authority, a path that starts with an
empty segment is kept apart from one. -/
def writeAuthority (u : Url) : List Char :=
  match u.authority with
  | some a => '/' :: '/' :: a.writeUser ++ a.writeHost
  | none => match u.path with
    | .segments ([] :: _ :: _) => ['/', '.']
    | _ => []

/-- The text of a URL. -/
def write (u : Url) : List Char :=
  u.scheme ++ ':' :: u.writeAuthority ++ u.path.write ++ writePart '?' u.query ++
    writePart '#' u.fragment

/-- The text of a URL as a string. -/
def toString (u : Url) : String :=
  String.ofList u.write

/-- The URL names a host. -/
def hasHost (u : Url) : Bool :=
  u.authority.any (·.host.isPresent)

/-- The URL without its fragment. -/
def withoutFragment (u : Url) : Url :=
  { u with fragment := none }

/-- The port that a connection is made to. -/
def effectivePort (u : Url) : Option Nat :=
  (u.authority.bind (·.port)) <|> defaultPort u.scheme

/-- The host, if the URL has an authority. -/
def host? (u : Url) : Option Host :=
  u.authority.map (·.host)

end Url

end ProcTrace
