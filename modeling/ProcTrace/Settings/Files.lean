import ProcTrace.Text.Utf8

/-!
# Files

The files that a configuration may be read from. A file is known by the names on the way to it from
the root; every start of such a way is a directory, and so is every start of the way to the working
directory. A path is gone through part by part (`Files.walk`): an empty part and a single dot stay
where they are, and two dots go back.
-/

namespace ProcTrace.Settings

/-- Files with their contents, and the directory that relative paths start from. -/
structure Files where
  workingDirectory : List String
  contents : List (List String × Text.Bytes)

namespace Files

/-- The names lead to a directory. -/
def isDirectory (fs : Files) (names : List String) : Bool :=
  names.isPrefixOf fs.workingDirectory ||
    fs.contents.any fun (file, _) => names.isPrefixOf file && names.length < file.length

/-- The part of a path stays where it is. -/
def isStill (part : String) : Bool :=
  part = "" || part = "."

/-- The file that the parts of a path lead to from a directory. The last part has to name a file. -/
def walk (fs : Files) (dir : List String) : List String → Option Text.Bytes
  | [] => none
  | [part] =>
    if isStill part ∨ part = ".." then none else fs.contents.lookup (dir ++ [part])
  | part :: rest =>
    if isStill part then walk fs dir rest
    else if part = ".." then walk fs dir.dropLast rest
    else if fs.isDirectory (dir ++ [part]) then walk fs (dir ++ [part]) rest
    else none

/-- The parts of a path. -/
def parts (path : String) : List String :=
  path.splitOn "/"

/-- The path starts from the root. -/
def isAbsolute (path : String) : Bool :=
  path.startsWith "/"

/-- The content of the file at a path. -/
def read? (fs : Files) (path : String) : Option Text.Bytes :=
  fs.walk (if isAbsolute path then [] else fs.workingDirectory) (parts path)

/-- The path with something appended to the name at its end, if there is one. -/
def extend? (path extension : String) : Option String :=
  match (parts path).reverse.dropWhile isStill with
  | [] => none
  | name :: rest =>
    if name = ".." then none else some ("/".intercalate ((name ++ extension) :: rest).reverse)

/-- A path as messages show it: relative paths without the parts that stay where they are. -/
def shown (path : String) : String :=
  if isAbsolute path then path
  else "/".intercalate ((parts path).filter (!isStill ·))

/-- The path with a name after it. -/
def join (path name : String) : String :=
  if path.endsWith "/" then path ++ name else path ++ "/" ++ name

end Files

end ProcTrace.Settings
