-- SUMMARY: The files that a command may read, by path.
import SdnZones.Dict
import SdnZones.Text.FileName

/-!
# Files

Files are known by the shortest spelling of their path. A directory is there if a file
is in it.
-/

namespace SdnZones

/-- Contents of files by path. -/
structure Files where
  contents : Dict (List UInt8)

namespace Files

/-- Files from paths in any spelling. -/
def ofList (files : List (String × List UInt8)) : Files :=
  ⟨.ofList (files.map fun (path, bytes) => (FileName.normal path, bytes))⟩

/-- The content of a file; a path that ends in a slash leads to no file. -/
def get? (files : Files) (path : String) : Option (List UInt8) :=
  if path.toList.getLast? == some '/' then none else files.contents.get? (FileName.normal path)

/-- Whether a path leads to a file. -/
def isFile (files : Files) (path : String) : Bool := (files.get? path).isSome

/-- Whether a path leads to a directory. -/
def isDirectory (files : Files) (path : String) : Bool :=
  let start := FileName.normal path ++ "/"
  files.contents.toList.any fun (name, _) => Text.startsWith start name

/-- Whether a path leads to anything. -/
def exist (files : Files) (path : String) : Bool := files.isFile path || files.isDirectory path

end Files

end SdnZones
