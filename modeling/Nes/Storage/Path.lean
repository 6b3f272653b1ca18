/-!
# Paths

A path is a text of names between slashes. Empty names mean nothing, so that slashes may be
doubled, and a path that begins with a slash is absolute.
-/
namespace Nes.Path

/-- Whether a path begins at the outermost directory. -/
def isAbsolute (path : String) : Bool := path.toList.head? == some '/'

/-- Whether a path ends with a slash, which only the path of a directory may do. -/
def endsWithSlash (path : String) : Bool := path.toList.getLast? == some '/'

/-- The names of a path. -/
def names (path : String) : List String := (path.splitOn "/").filter (· ≠ "")

/-- The name of what a path leads to, unless the path only leads up or stays where it is. -/
def fileName? (path : String) : Option String :=
  match ((names path).filter (· ≠ ".")).getLast? with
  | some name => if name = ".." then none else some name
  | none => none

/-- A name without its extension: what stands before the last dot, unless nothing does. -/
def withoutExtension (name : String) : String :=
  match name.toList.reverse.dropWhile (· ≠ '.') with
  | [] => name
  | [_] => name
  | _ :: reversed => String.ofList reversed.reverse

/-- The name of what a path leads to, without its extension. -/
def fileStem? (path : String) : Option String := (fileName? path).map withoutExtension

/-- A path as seen from a directory. An absolute path stays what it is. -/
def join (directory path : String) : String :=
  if isAbsolute path || directory.isEmpty then path
  else if endsWithSlash directory then directory ++ path
  else directory ++ "/" ++ path

end Nes.Path
