import Groundplan.Dictionary
import Groundplan.Disk.Path

/-!
# Disks

What a program does with files, and a disk to do it on. The operations are given by a record, so that
the same program runs on a real disk and on a disk that is a plain value.
-/

namespace Groundplan

/-- Why an operation on a disk has failed. -/
inductive DiskError where
  | notFound
  | fileExists
  | notADirectory
  | isADirectory
  /-- The content of a file is no text. -/
  | notText
  | other (message : String)
deriving DecidableEq, Repr

def DiskError.message : DiskError → String
  | .notFound => "No such file or directory (os error 2)"
  | .fileExists => "File exists (os error 17)"
  | .notADirectory => "Not a directory (os error 20)"
  | .isADirectory => "Is a directory (os error 21)"
  | .notText => "stream did not contain valid UTF-8"
  | .other message => message

/-- The operations on files. -/
structure FileAccess (m : Type → Type) where
  read : String → m (Except DiskError ByteArray)
  /-- Makes a directory and those around it, as far as they are missing. -/
  makeDirectory : String → m (Except DiskError Unit)
  /-- Writes a file, in the stead of one that is already there. -/
  write : String → String → m (Except DiskError Unit)

/-- What stands at a path. -/
inductive DiskEntry where
  | directory
  | file (content : ByteArray)

instance : DecidableEq DiskEntry
  | .directory, .directory => .isTrue rfl
  | .directory, .file _ => .isFalse nofun
  | .file _, .directory => .isFalse nofun
  | .file a, .file b =>
    @decidable_of_iff _ (a = b) ⟨congrArg _, DiskEntry.file.inj⟩ (ByteArray.instDecidableEq a b)

/-- A disk as a value: what stands at each path, which is given by its parts from the root on, and
the working directory. The working directory and those around it are always there. -/
structure Disk where
  entries : List (List String × DiskEntry) := []
  workingDirectory : List String := []
deriving DecidableEq, Inhabited

namespace Disk

def get? (d : Disk) (path : List String) : Option DiskEntry :=
  if path <+: d.workingDirectory then some .directory
  else (d.entries.find? (·.1 == path)).map (·.2)

/-- The disk with an entry at a path, in the stead of what was there. -/
def put (d : Disk) (path : List String) (entry : DiskEntry) : Disk :=
  { d with entries :=
      if d.entries.any (·.1 == path) then
        d.entries.map fun e => if e.1 == path then (path, entry) else e
      else d.entries ++ [(path, entry)] }

/-- Where a part of a path leads from a directory. Nothing lies above the root. -/
def stepTo (place : List String) (part : String) : List String :=
  if part == ".." then place.dropLast else place ++ [part]

/-- The directory at which a path starts: the root if it is absolute, else the working directory. -/
def start (d : Disk) (path : String) : List String :=
  if Path.isAbsolute path then [] else d.workingDirectory

/-- The directory to which parts of a path lead from a directory, each of them over directories that
are there. -/
def enter (d : Disk) (place : List String) : List String → Except DiskError (List String)
  | [] => .ok place
  | part :: rest =>
    match d.get? (stepTo place part) with
    | some .directory => enter d (stepTo place part) rest
    | some (.file _) => .error .notADirectory
    | none => .error .notFound

/-- The directory that a path names. -/
def reach (d : Disk) (path : String) : Except DiskError (List String) :=
  d.enter (d.start path) (Path.parts path)

/-- The place that a path names, in a directory that is there. -/
def locate (d : Disk) (path : String) : Except DiskError (List String) := do
  if path == "" then throw .notFound
  let parts := Path.parts path
  match parts.getLast? with
  | none => return d.start path
  | some last => return stepTo (← d.enter (d.start path) parts.dropLast) last

/-- The content of a file. -/
def read (d : Disk) (path : String) : Except DiskError ByteArray := do
  match d.get? (← d.locate path) with
  | none => throw .notFound
  | some .directory => throw .isADirectory
  | some (.file content) =>
    if Path.namesDirectory path then throw .notADirectory else return content

/-- Makes the directories that parts of a path name from a directory on, as far as they are
missing. -/
def makeParts (d : Disk) (place : List String) : List String → Except DiskError Disk
  | [] => .ok d
  | part :: rest =>
    match d.get? (stepTo place part) with
    | some .directory => makeParts d (stepTo place part) rest
    | some (.file _) => .error (if rest.isEmpty then .fileExists else .notADirectory)
    | none => makeParts (d.put (stepTo place part) .directory) (stepTo place part) rest

/-- The disk with a directory and those around it. A point at the end of a path stands for a directory
that is there already. -/
def makeDirectory (d : Disk) (path : String) : Except DiskError Disk := do
  if path.endsWith "/." then let _ ← d.reach path
  d.makeParts (d.start path) (Path.parts path)

def write (d : Disk) (path content : String) : Except DiskError Disk := do
  let place ← d.locate path
  match d.get? place with
  | some .directory => throw .isADirectory
  | _ => return d.put place (.file content.toUTF8)

/-- An operation that changes the disk unless it fails. -/
def modify (change : Disk → Except DiskError Disk) : StateM Disk (Except DiskError Unit) := fun d =>
  match change d with
  | .ok d => (.ok (), d)
  | .error e => (.error e, d)

/-- The operations on a disk that is a value. -/
def access : FileAccess (StateM Disk) where
  read path := fun d => (d.read path, d)
  makeDirectory path := modify (·.makeDirectory path)
  write path content := modify (·.write path content)

end Disk

end Groundplan
