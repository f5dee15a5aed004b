import RegistryAuth.Text.Blank
import RegistryAuth.Text.Utf8

/-!
# Files

A workload's assertion lies in a file, which its cluster replaces from time to time.  Of the file system
only the files and directories at known paths matter, and why a path cannot be read.
-/

namespace RegistryAuth

open Text (Bytes)

/-- Why a file could not be read. -/
inductive FileFault where
  | notFound
  | isDirectory
  | notDirectory
  | invalidName
  | invalidInput
  | invalidData
  | permissionDenied
  deriving DecidableEq, Repr

def FileFault.text : FileFault → String
  | .notFound => "NotFound"
  | .isDirectory => "IsADirectory"
  | .notDirectory => "NotADirectory"
  | .invalidName => "InvalidFilename"
  | .invalidInput => "InvalidInput"
  | .invalidData => "InvalidData"
  | .permissionDenied => "PermissionDenied"

/-- What is at a path. -/
inductive FileEntry where
  | content (bytes : Bytes)
  | directory
  deriving DecidableEq, Repr

/-- What is at the paths that are known, the latest first. -/
structure Files where
  entries : List (List Char × FileEntry)
  deriving DecidableEq, Repr

namespace Files

/-- The files below a directory that holds none yet. -/
def under (directory : String) : Files :=
  ⟨[(directory.toList, .directory)]⟩

def put (fs : Files) (path : String) (entry : FileEntry) : Files :=
  ⟨(path.toList, entry) :: fs.entries.filter (·.1 ≠ path.toList)⟩

def remove (fs : Files) (path : String) : Files :=
  ⟨fs.entries.filter (·.1 ≠ path.toList)⟩

/-- The length of the longest name within a path, in bytes. -/
def maxName : Nat := 255

/-- The length of the longest path, in bytes. -/
def maxPath : Nat := 4095

def blocks (path : List Char) (entry : List Char × FileEntry) : Bool :=
  match entry.2 with
  | .content _ => (entry.1 ++ ['/']).isPrefixOf path
  | .directory => false

def isTooLong (path : String) : Bool :=
  decide (maxPath < path.utf8ByteSize) ||
    (path.toList.splitOn '/').any fun name => decide (maxName < (Text.Utf8.encode name).length)

def read (fs : Files) (path : String) : Except FileFault Bytes :=
  let cs := path.toList
  if cs.contains '\x00' then .error .invalidInput
  else if isTooLong path then .error .invalidName
  else if fs.entries.any (blocks cs) then .error .notDirectory
  else
    match fs.entries.lookup (Text.trimEndWhile (· == '/') cs) with
    | some (.content bytes) => .ok bytes
    | some .directory => .error .isDirectory
    | none => .error .notFound

end Files

end RegistryAuth
