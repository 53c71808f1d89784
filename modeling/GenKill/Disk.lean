import GenKill.Error
import GenKill.Table

/-!
# Files

What a command needs of a file system (`Files`), and a file system that is a
value (`Disk`): the files below a working directory.  Outside of that directory
there is nothing.
-/

namespace GenKill

/-- Access to files in a monad. -/
structure Files (m : Type → Type) where
  read : Text → m (Except Error Text)
  /-- Opens a file for appending; it is created if there is none. -/
  create : Text → m (Except Error Unit)
  append : Text → Text → m Unit

/-- Files by their paths: the names of the directories and of the file,
separated by slashes. -/
structure Disk where
  files : Table Text Text := .empty

namespace Disk

/-- What a path leads to. -/
inductive Place where
  | file (path : Text)
  | directory
  /-- Nothing yet, in a directory that exists. -/
  | vacant (path : Text)
  | missing
  /-- The path goes through a file. -/
  | blocked

def child (directory name : Text) : Text :=
  if directory = [] then name else directory ++ "/" ++ name

def isFile (disk : Disk) (path : Text) : Bool := (disk.files.get? path).isSome

/-- Directories exist as far as there are files in them. -/
def isDirectory (disk : Disk) (path : Text) : Bool :=
  disk.files.entries.any fun (file, _) => file.startsWith (path ++ "/")

/-- Follows the parts of a path from a directory, which is given by its own
names. -/
def follow (disk : Disk) : List Text → List Text → Place
  | _, [] => .directory
  | here, part :: rest =>
      if part = [] ∨ part = "." then disk.follow here rest
      else if part = ".." then
        match here with
        | [] => .missing
        | _ :: _ => disk.follow here.dropLast rest
      else
        let path := child (Text.join "/" here) part
        if disk.isFile path then (if rest = [] then .file path else .blocked)
        else if disk.isDirectory path then disk.follow (here ++ [part]) rest
        else if rest = [] then .vacant path
        else .missing

/-- The place that a path leads to; paths from the root lead out of the working
directory. -/
def find (disk : Disk) (path : Text) : Place :=
  if path = [] ∨ path.startsWith "/" then .missing
  else disk.follow [] (path.splitOn (Text.byte '/'))

def read (disk : Disk) (path : Text) : Except Error Text :=
  match disk.find path with
  | .file found => .ok ((disk.files.get? found).getD [])
  | .directory => .error (.unreadFile path "is a directory")
  | .blocked => .error (.unopenedFile path "not a directory")
  | .vacant _ | .missing => .error (.missingFile path)

/-- The disk after a file has been opened for appending. -/
def create (disk : Disk) (path : Text) : Except Error Disk :=
  if path.endsWith "/" then .error (.unopenedFile path "is a directory")
  else match disk.find path with
    | .file _ => .ok disk
    | .vacant found => .ok { disk with files := disk.files.insert found [] }
    | .directory => .error (.unopenedFile path "is a directory")
    | .blocked => .error (.unopenedFile path "not a directory")
    | .missing => .error (.missingFile path)

def append (disk : Disk) (path text : Text) : Disk :=
  match disk.find path with
  | .file found =>
      { disk with
        files :=
          disk.files.insert found ((disk.files.get? found).getD [] ++ text) }
  | _ => disk

/-- A disk with the given files. -/
def ofList (files : List (Text × Text)) : Disk :=
  { files := Table.ofList files }

/-- Access to a disk that is carried along. -/
def access : Files (StateM Disk) where
  read path := do return (← get).read path
  create path := do
    match (← get).create path with
    | .error error => return .error error
    | .ok disk =>
        set disk
        return .ok ()
  append path text := modify fun disk => disk.append path text

end Disk

end GenKill
