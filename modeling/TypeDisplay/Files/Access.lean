import TypeDisplay.Files.Path
import TypeDisplay.Text.Quoted

/-!
# Access to files

A file system answers two questions about a path: whether something is there, and what octets it
holds.  Either may be refused with a number and a description.  A file that was opened may still
fail to be read, and then the message does not name it.
-/

namespace TypeDisplay

structure SystemError where
  number : Nat
  description : String
  deriving DecidableEq, Repr

namespace SystemError

def missing : SystemError := ⟨2, "No such file or directory"⟩
def badDescriptor : SystemError := ⟨9, "Bad file descriptor"⟩
def accessDenied : SystemError := ⟨13, "Permission denied"⟩
def alreadyThere : SystemError := ⟨17, "File exists"⟩
def notDirectory : SystemError := ⟨20, "Not a directory"⟩
def isDirectory : SystemError := ⟨21, "Is a directory"⟩
def nameTooLong : SystemError := ⟨36, "File name too long"⟩
def linkLoop : SystemError := ⟨40, "Too many levels of symbolic links"⟩

def message (e : SystemError) : String :=
  "[Errno " ++ toString e.number ++ "] " ++ e.description

end SystemError

/-- Why something at a path cannot be had. -/
inductive AccessError where
  | refused (error : SystemError)
  /-- The file is open, but it cannot be read. -/
  | broken (error : SystemError)
  /-- The path names no file anywhere. -/
  | badPath (error : PathError)
  deriving DecidableEq, Repr

namespace AccessError

def message : AccessError → Path → String
  | refused error, p => error.message ++ ": " ++ Text.quoted p.text
  | broken error, _ => error.message
  | badPath error, _ => error.message

/-- Whether the number is the one of these errors. -/
def isOneOf (errors : List SystemError) : AccessError → Bool
  | refused error | broken error => errors.any fun e ↦ e.number == error.number
  | badPath _ => false

def isMissing (e : AccessError) : Bool :=
  e.isOneOf [.missing]

/-- Whether a look that fails in this way has found that nothing is there. -/
def isAbsence : AccessError → Bool
  | badPath _ => true
  | e => e.isOneOf [.missing, .notDirectory, .badDescriptor, .linkLoop]

end AccessError

structure FileSystem where
  look : Path → Except AccessError Unit
  read : Path → Except AccessError (List UInt8)

/-- Whether something is found at a path, if that can be told. -/
def FileSystem.finds (system : FileSystem) (p : Path) : Except AccessError Bool :=
  match system.look p with
  | .ok () => .ok true
  | .error e => if e.isAbsence then .ok false else .error e

end TypeDisplay
