import TypeDisplay.Files
import TypeDisplay.Source

/-!
# Descriptor files

Loading and saving of descriptors.  A file that cannot be read and a source without a
descriptor are reported under the path of the file.  Paths that name no file, octets that are no
text and scalars that are no value of their tag are not reported: they end the program.
-/

namespace TypeDisplay

inductive LoadError where
  | unreadable (path : Path) (error : AccessError)
  | undecodable (failure : Utf8.Failure)
  | source (error : SourceError)
  deriving DecidableEq, Repr

namespace LoadError

def message : LoadError → Text
  | unreadable _ (.badPath error) => error.message
  | unreadable path error =>
      "Cannot read descriptor file '" ++ path.text ++ "': " ++ error.message path
  | undecodable failure => failure.message
  | source error => error.message

/-- Whether the error is reported, and does not end the program. -/
def isReported : LoadError → Bool
  | unreadable _ (.badPath _) | undecodable _ | source (.badScalar _) => false
  | _ => true

/-- The message with what is said of the text of the file. -/
def report (said : Option Text) : LoadError → Text
  | source error => error.report said
  | error => error.message

end LoadError

inductive SaveError where
  | unwritable (path : Path) (error : FileError)
  | depth (error : DepthError)
  deriving DecidableEq, Repr

def SaveError.message : SaveError → Text
  | unwritable _ (.badPath error) => error.message
  | unwritable path error =>
      "Cannot write descriptor file '" ++ path.text ++ "': " ++ error.message path
  | depth error => error.message

namespace Source

def load (system : FileSystem) (p : Path) : Except LoadError Descriptor :=
  match system.read p with
  | .error e => .error (.unreadable p e)
  | .ok octets =>
      match readText octets with
      | .error failure => .error (.undecodable failure)
      | .ok text => (parse (.ofChars text) p.text).mapError .source

/-- Saves a descriptor, so that the file holds its text and nothing else. -/
def save (fs : Files) (d : Descriptor) (p : Path) : Except SaveError Files :=
  match print d with
  | .error e => .error (.depth e)
  | .ok text => (fs.write p (Utf8.encode text)).mapError (.unwritable p)

end Source
end TypeDisplay
