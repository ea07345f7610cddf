import Wiretap.Bytes

/-!
# Files

A disk holds directories and files under a working directory.  Paths are walked
name by name: every name but the last must be that of a directory.

* `Disk.read` gives the contents of a file.
* `Disk.create` makes an empty file, or empties the one that is there.
* `Disk.writeAt` writes into a file at an offset; a gap before the offset is
  filled with zeros.
-/

namespace Wiretap

/-- The names that lead from the root to a file or directory. -/
abbrev Disk.Location : Type := List String

/-- Directories and files. -/
structure Disk where
  /-- The directory from which relative paths start. -/
  home : Disk.Location
  /-- The directories besides the root. -/
  directories : List Disk.Location
  /-- The files with their contents. -/
  files : List (Disk.Location × Bytes)
deriving DecidableEq

namespace Disk

/-- Why a file cannot be opened or read. -/
inductive Fault where
  /-- There is no such file, or no directory to put it into. -/
  | notFound
  /-- A name in the middle of the path is that of a file. -/
  | notDirectory
  /-- The path is that of a directory. -/
  | isDirectory
  /-- A name or the whole path is too long. -/
  | nameTooLong
  /-- The path holds a zero byte. -/
  | zeroByte
  /-- The contents are not UTF-8. -/
  | notText
deriving DecidableEq

/-- What is said of a fault. -/
def Fault.message : Fault → String
  | .notFound => "No such file or directory (os error 2)"
  | .notDirectory => "Not a directory (os error 20)"
  | .isDirectory => "Is a directory (os error 21)"
  | .nameTooLong => "File name too long (os error 36)"
  | .zeroByte => "file name contained an unexpected NUL byte"
  | .notText => "stream did not contain valid UTF-8"

/-- A disk with a working directory and nothing else. -/
def ofHome (home : Location) : Disk :=
  ⟨home, (List.range home.length).map fun n => home.take (n + 1), []⟩

/-- Whether a location is that of a directory. -/
def isDirectory (disk : Disk) (location : Location) : Bool :=
  location.isEmpty || disk.directories.contains location

/-- The contents of the file at a location. -/
def contents? (disk : Disk) (location : Location) : Option Bytes :=
  (disk.files.find? fun file => file.1 = location).map Prod.snd

/-- The greatest length of a name in bytes. -/
def nameLimit : Nat := 255

/-- The greatest length of a path in bytes. -/
def pathLimit : Nat := 4095

/-- Goes from a directory to the directory of a name in it. -/
def enter (disk : Disk) (location : Location) (name : String) : Except Fault Location :=
  if name = "" ∨ name = "." then .ok location
  else if name = ".." then .ok location.dropLast
  else if nameLimit < name.utf8ByteSize then .error .nameTooLong
  else if disk.isDirectory (location ++ [name]) then .ok (location ++ [name])
  else if (disk.contents? (location ++ [name])).isSome then .error .notDirectory
  else .error .notFound

/-- A path of which all names but the last have been walked. -/
structure Walked where
  /-- The directory in which the last name is looked up. -/
  parent : Location
  /-- The last name. -/
  name : String
  /-- Whether a slash follows the last name. -/
  slash : Bool

/-- Walks all names of a path but the last. -/
def walk (disk : Disk) (path : String) : Except Fault Walked :=
  if path.toList.contains '\x00' then .error .zeroByte
  else if path = "" then .error .notFound
  else if pathLimit < path.utf8ByteSize then .error .nameTooLong
  else
    let start := if path.toList.head? = some '/' then [] else disk.home
    let names := (path.splitOn "/").filter (· ≠ "")
    match names.getLast? with
    | none => .ok ⟨[], ".", true⟩
    | some last => do
      let parent ← names.dropLast.foldlM disk.enter start
      .ok ⟨parent, last, path.toList.getLast? = some '/'⟩

/-- The contents of a file. -/
def read (disk : Disk) (path : String) : Except Fault Bytes := do
  let walked ← disk.walk path
  let location := walked.parent ++ [walked.name]
  match disk.contents? location with
  | some bytes => if walked.slash then .error .notDirectory else .ok bytes
  | none =>
    -- What can be entered but has no contents is a directory.
    let _ ← disk.enter walked.parent walked.name
    .error .isDirectory

/-- Sets the contents of the file at a location. -/
def put (disk : Disk) (location : Location) (bytes : Bytes) : Disk :=
  if (disk.contents? location).isSome then
    { disk with files := disk.files.map fun file =>
        if file.1 = location then (location, bytes) else file }
  else { disk with files := disk.files ++ [(location, bytes)] }

/-- Makes an empty file, or empties the one that is there. -/
def create (disk : Disk) (path : String) : Except Fault (Disk × Location) := do
  let walked ← disk.walk path
  let location := walked.parent ++ [walked.name]
  if walked.slash && walked.name ≠ "." && walked.name ≠ ".." then .error .isDirectory
  else
    match disk.enter walked.parent walked.name with
    | .ok _ => .error .isDirectory
    | .error .notFound => .ok (disk.put location [], location)
    -- What has contents and cannot be entered is a file.
    | .error .notDirectory => .ok (disk.put location [], location)
    | .error fault => .error fault

/-- Contents with bytes written over them from an offset on. -/
def overwrite (old : Bytes) (offset : Nat) (bytes : Bytes) : Bytes :=
  old.take offset ++ List.replicate (offset - old.length) 0 ++ bytes
    ++ old.drop (offset + bytes.length)

/-- Writes bytes into the file at a location, from an offset on. -/
def writeAt (disk : Disk) (location : Location) (offset : Nat) (bytes : Bytes) : Disk :=
  disk.put location (overwrite ((disk.contents? location).getD []) offset bytes)

/-- Writing at the end appends. -/
theorem overwrite_length (old bytes : Bytes) :
    overwrite old old.length bytes = old ++ bytes := by
  simp [overwrite, List.drop_eq_nil_of_le]

end Disk
end Wiretap
