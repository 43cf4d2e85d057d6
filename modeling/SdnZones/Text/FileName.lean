-- SUMMARY: Names of files: components of paths, extensions, and joining.
import SdnZones.Text.Split

/-!
# File names

A path is cut at its slashes; empty components and single dots lead nowhere and are
left out. The extension of a file is what follows the last dot of its name, unless the
name starts there.
-/

namespace SdnZones.FileName

/-- The components of a path that lead somewhere. -/
def components (path : String) : List String :=
  (Text.splitString '/' path).filter fun c => c != "" && c != "."

/-- Whether a path starts at the root. -/
def isAbsolute (path : String) : Bool := path.toList.head? == some '/'

/-- The shortest spelling of a path. -/
def normal (path : String) : String :=
  (if isAbsolute path then "/" else "") ++ Text.joinString '/' (components path)

/-- The name of the file that a path leads to. -/
def name? (path : String) : Option String :=
  match (components path).getLast? with
  | some ".." => none
  | name => name

/-- The extension of the file that a path leads to. -/
def extension? (path : String) : Option String :=
  match name? path with
  | none => none
  | some name =>
    match Text.cut '.' name.toList.reverse with
    | some (_, []) => none
    | some (ending, _) => some (String.ofList ending.reverse)
    | none => none

/-- A path below a directory; an absolute path stands for itself. -/
def join (directory path : String) : String :=
  if isAbsolute path || directory.isEmpty then path
  else if directory.toList.getLast? == some '/' then directory ++ path
  else directory ++ "/" ++ path

end SdnZones.FileName
