import TypeDisplay.Files
import TypeDisplay.Options

/-!
# Option files

Loading of options.  A file that is not there has a message of its own.
-/

namespace TypeDisplay

inductive OptionsLoadError where
  | notFound (path : Path)
  | unreadable (path : Path) (error : AccessError)
  /-- It cannot be told whether the file is there. -/
  | hidden (path : Path) (error : AccessError)
  | undecodable (failure : Utf8.Failure)
  | options (error : OptionsError)
  deriving DecidableEq, Repr

namespace OptionsLoadError

def message : OptionsLoadError → Text
  | notFound path => "Config file not found: " ++ path.text
  | unreadable _ (.badPath error) => error.message
  | unreadable path error => "Cannot read config file: " ++ error.message path
  | hidden path error => error.message path
  | undecodable failure => failure.message
  | options error => error.message

/-- The message with what is said of the text of the file. -/
def report (said : Option Text) : OptionsLoadError → Text
  | options error => error.report said
  | error => error.message

/-- Whether the error is reported, and does not end the program. -/
def isReported : OptionsLoadError → Bool
  | unreadable _ (.badPath _) | hidden _ _ | undecodable _ => false
  | options error => error.isReported
  | _ => true

end OptionsLoadError

namespace Options

/-- The option file that is used when no other is named. -/
def defaultFile : String := ".sharpname.yaml"

def load (system : FileSystem) (p : Path) : Except OptionsLoadError Options :=
  match system.read p with
  | .error e => .error (if e.isMissing then .notFound p else .unreadable p e)
  | .ok octets =>
      match readText octets with
      | .error failure => .error (.undecodable failure)
      | .ok text => (parse (.ofChars text) p.text).mapError .options

end Options
end TypeDisplay
