import Nes.Storage.Path

/-!
# Storage

Storage holds files in directories. Paths are followed name by name from the working directory,
and each directory on the way must exist; `..` leads out of a directory, `.` stays in it, and a
slash at the end asks for a directory. A file is created in a directory that exists.
-/
namespace Nes

/-- Why a file could not be read or written. -/
inductive FileFault where
  /-- A name on the path does not exist. -/
  | notFound
  /-- A name that must be a directory is a file. -/
  | notDirectory
  /-- A name that must be a file is a directory. -/
  | isDirectory
  /-- A name or the whole path is too long. -/
  | nameTooLong
  /-- A path holds the character zero. -/
  | unusableName
  /-- Any other fault, in the words of the system. -/
  | other (text : String)
deriving DecidableEq

/-- The text shown for a fault. -/
def FileFault.message : FileFault → String
  | notFound => "No such file or directory (os error 2)"
  | notDirectory => "Not a directory (os error 20)"
  | isDirectory => "Is a directory (os error 21)"
  | nameTooLong => "File name too long (os error 36)"
  | unusableName => "file name contained an unexpected NUL byte"
  | other text => text

/-- What reading a file gives. -/
abbrev FileContents := Except FileFault ByteArray

/-- What a name stands for. -/
inductive StorageEntry where
  /-- A file with its bytes. -/
  | file (bytes : ByteArray)
  /-- A directory. -/
  | directory

/-- A place in storage: the names that lead to it from the working directory, the last first. A
place outside begins with the names `..`, or with the name `/` if it is absolute. -/
abbrev Place := List String

namespace Place

/-- The outermost directory. -/
def root : Place := ["/"]

/-- The directory around a place. -/
def parent : Place → Place
  | [] => [".."]
  | name :: outer =>
    if name = ".." then ".." :: name :: outer
    else if name = "/" then [name]
    else outer

/-- Whether a place is the working directory or a directory around it. -/
def isAround (place : Place) : Bool := place.all (· == "..") || place == root

end Place

/-- Files and directories. -/
structure Storage where
  /-- What the places stand for; the first entry of a place counts. -/
  entries : List (Place × StorageEntry)

namespace Storage

/-- Storage without files. -/
def empty : Storage := ⟨[]⟩

/-- What a place stands for. -/
def entry? (storage : Storage) (place : Place) : Option StorageEntry :=
  if place.isAround then some .directory else storage.entries.lookup place

/-- Let a place stand for something else. -/
def put (storage : Storage) (place : Place) (entry : StorageEntry) : Storage :=
  ⟨(place, entry) :: storage.entries.filter fun old => old.1 != place⟩

/-- The longest name in bytes. -/
def longestName : Nat := 255

/-- The longest path in bytes. -/
def longestPath : Nat := 4095

/-- Follow one name out of a place, which must be a directory. -/
def descend (storage : Storage) (place : Place) (name : String) : Except FileFault Place :=
  match storage.entry? place with
  | none => .error .notFound
  | some (.file _) => .error .notDirectory
  | some .directory =>
    if name = "." then .ok place
    else if name = ".." then .ok place.parent
    else if longestName < name.utf8ByteSize then .error .nameTooLong
    else .ok (name :: place)

/-- The names to follow on a path, and where to begin. -/
def route (path : String) : Place × List String :=
  (if Path.isAbsolute path then .root else [],
    Path.names path ++ if Path.endsWithSlash path then ["."] else [])

/-- The place that a path leads to. What is there may still be missing. -/
def locate (storage : Storage) (path : String) : Except FileFault Place :=
  if path.toList.contains '\x00' then .error .unusableName
  else if path.isEmpty then .error .notFound
  else if longestPath < path.utf8ByteSize then .error .nameTooLong
  else
    let (start, names) := route path
    names.foldlM storage.descend start

/-- Read a file. -/
def read (storage : Storage) (path : String) : FileContents :=
  match storage.locate path with
  | .error fault => .error fault
  | .ok place =>
    match storage.entry? place with
    | none => .error .notFound
    | some .directory => .error .isDirectory
    | some (.file bytes) => .ok bytes

/-- Write a file, in place of the one that was there. -/
def write (storage : Storage) (path : String) (bytes : ByteArray) : Except FileFault Storage :=
  match storage.locate path with
  | .error fault => .error fault
  | .ok place =>
    match storage.entry? place with
    | some .directory => .error .isDirectory
    | _ => .ok (storage.put place (.file bytes))

/-- Follow one name, creating the directory if it does not exist. -/
def descendCreating (found : Storage × Place) (name : String) :
    Except FileFault (Storage × Place) :=
  let (storage, place) := found
  match storage.descend place name with
  | .error fault => .error fault
  | .ok inner =>
    match storage.entry? inner with
    | some .directory => .ok (storage, inner)
    | some (.file _) => .error .notDirectory
    | none => .ok (storage.put inner .directory, inner)

/-- Create a directory and the directories around it, where they do not exist. -/
def createDirectories (storage : Storage) (path : String) : Except FileFault Storage :=
  let (start, names) := route path
  (names.foldlM descendCreating (storage, start)).map Prod.fst

end Storage

end Nes
