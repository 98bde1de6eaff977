import TypeDisplay.CommandLine.Transcript

/-!
# The program

The files that a run may read are read first, and the run itself is a pure function of what
was found.
-/

namespace TypeDisplay
namespace CommandLine

def systemErrorOf : IO.Error → SystemError
  | .noFileOrDirectory _ _ _ => .missing
  | .alreadyExists _ code details | .inappropriateType _ code details
  | .interrupted _ code details | .invalidArgument _ code details
  | .noSuchThing _ code details | .permissionDenied _ code details
  | .resourceExhausted _ code details | .hardwareFault code details
  | .illegalOperation code details | .otherError code details
  | .protocolError code details | .resourceBusy code details
  | .resourceVanished code details | .timeExpired code details
  | .unsatisfiedConstraints code details | .unsupportedOperation code details =>
      ⟨code.toNat, details⟩
  | .unexpectedEof | .userError _ => .missing

/-- What was found at a path, by a look and by reading. -/
structure Found where
  path : Path
  look : Except AccessError Unit
  octets : Except AccessError (List UInt8)

def attempt {α : Type} (action : IO α) : IO (Except AccessError α) := do
  try
    return .ok (← action)
  catch e => return .error (.refused (systemErrorOf e))

def lookUp (file : Text) : IO Found := do
  let p := Path.ofText file
  match p.octets with
  | .error error => return ⟨p, .error (.badPath error), .error (.badPath error)⟩
  | .ok _ =>
      let name := p.text.replaced
      let octets ← attempt (IO.FS.readBinFile name)
      let place ← attempt (IO.FS.realPath name)
      return ⟨p, place.map fun _ ↦ (), octets.map ByteArray.toList⟩

/-- A file system that knows what was found before. -/
def systemOf (found : List Found) : FileSystem :=
  let at? (p : Path) := found.find? fun f ↦ f.path = p
  { look p := ((at? p).map Found.look).getD (.error (.refused .missing))
    read p := ((at? p).map Found.octets).getD (.error (.refused .missing)) }

def printTranscript (t : Transcript) : IO UInt32 := do
  IO.print t.output.replaced
  IO.eprint t.errors.replaced
  match t.close with
  | .ended (.exit code) => return code.toUInt32
  | .ended (.aborted error) => do
      IO.eprintln error.message.replaced
      return 1
  | .unprintable message => do
      IO.eprintln message.replaced
      return 1

end CommandLine
end TypeDisplay

def main (words : List String) : IO UInt32 := do
  let arguments := words.map TypeDisplay.Text.ofString
  let found ← (TypeDisplay.CommandLine.filesRead arguments).mapM
    TypeDisplay.CommandLine.lookUp
  let run := TypeDisplay.CommandLine.run (TypeDisplay.CommandLine.systemOf found) arguments
  TypeDisplay.CommandLine.printTranscript (run.transcript .utf8 fun _ ↦ none)
