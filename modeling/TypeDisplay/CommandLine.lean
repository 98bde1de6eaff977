import TypeDisplay.CommandLine.Arguments
import TypeDisplay.Descriptor.Name
import TypeDisplay.Keyword
import TypeDisplay.Options.File
import TypeDisplay.Source.File

/-!
# Runs of the program

A run says one thing after the other and ends with an exit code, unless an error ends it that
is not reported.  Formatting goes on after a file that cannot be displayed, and ends with
code 1 if there was one.
-/

namespace TypeDisplay
namespace CommandLine

inductive Abort where
  | load (error : LoadError)
  | options (error : OptionsLoadError)
  /-- The option file is asked for without its path. -/
  | pathAbsent
  deriving DecidableEq, Repr

def Abort.message : Abort → Text
  | load error => error.message
  | options error => error.message
  | pathAbsent => "expected str, bytes or os.PathLike object, not list"

inductive Ending where
  | exit (code : Nat)
  | aborted (error : Abort)
  deriving DecidableEq, Repr

/-! ### What is said -/

/-- What the reader of YAML or the validation says of the file at a path, if that is known. -/
abbrev Remarks := Path → Option Text

/-- Why a file has no name. -/
inductive FileFault where
  | load (error : LoadError)
  | name (error : NameError)
  deriving DecidableEq, Repr

def FileFault.report (said : Option Text) : FileFault → Text
  | load error => error.report said
  | name error => error.message

inductive Entry where
  /-- A line of the output.  All others go to the error stream. -/
  | line (text : Text)
  | usage (text : Text)
  | optionFault (path : Path) (error : OptionsLoadError)
  | fileFault (file : Text) (fault : FileFault)
  deriving DecidableEq, Repr

def errorLine (message : Text) : Text := "Error: " ++ message

namespace Entry

def output? : Entry → Option Text
  | line text => some text
  | _ => none

def error? (remarks : Remarks) : Entry → Option Text
  | line _ => none
  | usage text => some text
  | optionFault path error => some (errorLine (error.report (remarks path)))
  | fileFault file fault =>
      some (errorLine (file ++ ": " ++ fault.report (remarks (.ofText file))))

end Entry

/-- What was said, first things first, and how a run ended. -/
structure Run where
  log : List Entry
  ending : Ending
  deriving DecidableEq, Repr

namespace Run

def output (run : Run) : List Text :=
  run.log.filterMap Entry.output?

/-- The lines of the error stream without remarks. -/
def errors (run : Run) : List Text :=
  run.log.filterMap (Entry.error? fun _ ↦ none)

end Run

/-! ### Files -/

/-- What becomes of one file: a name, a report, or the end of the run. -/
inductive FileResult where
  | name (name : Text)
  | report (fault : FileFault)
  | abort (error : Abort)
  deriving DecidableEq, Repr

def ofLoadError (error : LoadError) : FileResult :=
  if error.isReported then .report (.load error) else .abort (.load error)

def formatFile (system : FileSystem) (escaping : Bool) (file : Text) : FileResult :=
  match Source.load system (.ofText file) with
  | .error e => ofLoadError e
  | .ok d =>
      match d.displayName escaping with
      | .ok name => .name name
      | .error e => .report (.name e)

/-- Formats files one after the other; `failed` says whether one was reported before. -/
def formatFiles (system : FileSystem) (escaping : Bool) : List Text → (failed : Bool) → Run
  | [], failed => ⟨[], .exit (if failed then 1 else 0)⟩
  | file :: files, failed =>
      match formatFile system escaping file with
      | .abort error => ⟨[], .aborted error⟩
      | .name name =>
          let run := formatFiles system escaping files failed
          { run with log := .line name :: run.log }
      | .report fault =>
          let run := formatFiles system escaping files true
          { run with log := .fileFault file fault :: run.log }

/-! ### Options -/

def ofOptionsError (path : Path) (error : OptionsLoadError) : Run :=
  if error.isReported then ⟨[.optionFault path error], .exit 1⟩
  else ⟨[], .aborted (.options error)⟩

def loadOptions (system : FileSystem) (path : Path) : Except Run Options :=
  (Options.load system path).mapError (ofOptionsError path)

/-- The options of a run, or how the run ends without them: those of the named file, else those
of the default file if it is there, else the defaults. -/
def resolveOptions (system : FileSystem) : OptionFile → Except Run Options
  | .named file => loadOptions system (.ofText file)
  | .standard =>
      let path := Path.ofText Options.defaultFile
      match system.finds path with
      | .ok true => loadOptions system path
      | .ok false => .ok {}
      | .error e => .error (ofOptionsError path (.hidden path e))
  | .absent => .error ⟨[], .aborted .pathAbsent⟩

/-- Formats files.  The options have to be right even when they are overridden. -/
def format (system : FileSystem) (files : List Text) (config : OptionFile) (noEscape : Bool) :
    Run :=
  match resolveOptions system config with
  | .error run => run
  | .ok options => formatFiles system (options.escapeKeywords && !noEscape) files false

/-! ### Keywords -/

def keywordLines : List String :=
  Keyword.reserved ++ Keyword.contextual.map (· ++ " (contextual)")

def run (system : FileSystem) (arguments : List Text) : Run :=
  match parse arguments with
  | .error refusal => ⟨refusal.lines.map .usage, .exit 2⟩
  | .ok (.help page) => ⟨page.help.map fun line ↦ .line (.ofString line), .exit 0⟩
  | .ok .keywords => ⟨keywordLines.map fun line ↦ .line (.ofString line), .exit 0⟩
  | .ok (.format files config noEscape) => format system files config noEscape

/-- The files that a run may read. -/
def filesRead (arguments : List Text) : List Text :=
  match parse arguments with
  | .ok (.format files (.named file) _) => file :: files
  | .ok (.format files _ _) => .ofString Options.defaultFile :: files
  | _ => []

end CommandLine
end TypeDisplay
