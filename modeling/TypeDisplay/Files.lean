import TypeDisplay.Files.Access
import TypeDisplay.Text.Utf8

/-!
# Files

The files and directories below a working directory.  Nothing but directories is known
about what lies above it.  A path is followed name by name, and every name but the last has
to be one of a directory.
-/

namespace TypeDisplay

inductive FileError where
  | missing | alreadyThere | notDirectory | isDirectory | nameTooLong
  /-- The path names no file anywhere. -/
  | badPath (error : PathError)
  deriving DecidableEq, Repr

namespace FileError

def access : FileError → AccessError
  | missing => .refused .missing
  | alreadyThere => .refused .alreadyThere
  | notDirectory => .refused .notDirectory
  | isDirectory => .refused .isDirectory
  | nameTooLong => .refused .nameTooLong
  | badPath error => .badPath error

def message (e : FileError) (p : Path) : String :=
  e.access.message p

end FileError

abbrev Reader := Path → Except FileError (List UInt8)

/-- What is there can be read, unless it is a directory. -/
def Reader.system (read : Reader) : FileSystem where
  look p :=
    match read p with
    | .ok _ | .error .isDirectory => .ok ()
    | .error e => .error e.access
  read p := (read p).mapError FileError.access

instance : Coe Reader FileSystem := ⟨Reader.system⟩

theorem Reader.read_eq_ok {read : Reader} {p : Path} {octets : List UInt8}
    (h : read p = .ok octets) : read.system.read p = .ok octets := by
  change (read p).mapError FileError.access = .ok octets
  rw [h]
  rfl

abbrev FileName := List UInt8

namespace FileName

def parent : FileName := Utf8.encode ".."

/-- The octets that a name may have. -/
def longest : Nat := 255

/-- The octets that a path may have. -/
def longestPath : Nat := 4095

end FileName

/-- A place among the directories: how far it is above the working directory, and the names
from there, innermost first. -/
structure Location where
  above : Nat
  names : List FileName
  deriving DecidableEq, Repr

namespace Location

def step (l : Location) (name : FileName) : Location :=
  if name = FileName.parent then
    match l.names with
    | [] => { l with above := l.above + 1 }
    | _ :: rest => { l with names := rest }
  else { l with names := name :: l.names }

def start (p : Path) : Location :=
  if p.root.isEmpty then ⟨0, []⟩ else ⟨1, []⟩

end Location

inductive FileEntry where
  | file (octets : List UInt8)
  | directory
  deriving DecidableEq, Repr

structure Files where
  entries : List (Location × FileEntry)
  deriving Repr

namespace Files

def empty : Files := ⟨[]⟩

def entry? (fs : Files) (l : Location) : Option FileEntry :=
  if l.names.isEmpty then some .directory else fs.entries.lookup l

def put (fs : Files) (l : Location) (entry : FileEntry) : Files :=
  ⟨(l, entry) :: fs.entries⟩

def locate (fs : Files) : List FileName → Location → Except FileError Location
  | [], l => .ok l
  | name :: rest, l =>
      match fs.entry? l with
      | none => .error .missing
      | some (.file _) => .error .notDirectory
      | some .directory =>
          if FileName.longest < name.length then .error .nameTooLong
          else locate fs rest (l.step name)

/-- The names of a path that is not too long. -/
def names (p : Path) : Except FileError (List FileName) :=
  match p.octets with
  | .error error => .error (.badPath error)
  | .ok octets =>
      if FileName.longestPath < octets.length then .error .nameTooLong else .ok p.nameOctets

def find (fs : Files) (p : Path) : Except FileError Location := do
  fs.locate (← names p) (.start p)

def read (fs : Files) : Reader := fun p ↦ do
  match fs.entry? (← fs.find p) with
  | none => throw .missing
  | some .directory => throw .isDirectory
  | some (.file octets) => return octets

/-- Writes a file in a directory that is there. -/
def write (fs : Files) (p : Path) (octets : List UInt8) : Except FileError Files := do
  let l ← fs.find p
  match fs.entry? l with
  | some .directory => throw .isDirectory
  | _ => return fs.put l (.file octets)

/-- Makes the directories on the way from a location. -/
def makeFrom (fs : Files) : List FileName → Location → Except FileError Files
  | [], _ => .ok fs
  | name :: rest, l =>
      if FileName.longest < name.length then .error .nameTooLong
      else
        let l := l.step name
        match fs.entry? l with
        | none => makeFrom (fs.put l .directory) rest l
        | some .directory => makeFrom fs rest l
        | some (.file _) => .error (if rest.isEmpty then .alreadyThere else .notDirectory)

def makeDirectory (fs : Files) (p : Path) : Except FileError Files := do
  fs.makeFrom (← names p) (.start p)

/-- Removes a file or a directory with all that is in it. -/
def remove (fs : Files) (p : Path) : Except FileError Files := do
  let l ← fs.find p
  if (fs.entry? l).isNone then throw .missing
  return ⟨fs.entries.filter fun entry ↦ !(l.names.isSuffixOf entry.1.names)⟩

end Files

/-- The text of a file, whose lines may end in three ways. -/
def readText (octets : List UInt8) : Except Utf8.Failure (List Char) :=
  (Utf8.decode octets).map Utf8.normalizeLines

end TypeDisplay
