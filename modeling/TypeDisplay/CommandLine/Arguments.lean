import TypeDisplay.CommandLine.Page
import TypeDisplay.Text.Digit
import TypeDisplay.Text.Quoted

/-!
# Arguments

Arguments are sorted into words and options before any of them is looked at more closely.
Options may stand in front of, behind or among the words, may be shortened as long as they
stay unambiguous, and may have their value attached.  After a double dash all arguments are
words.  The files of a command are the first run of words; all later words are left over,
and whatever is left over is refused in the end.
-/

namespace TypeDisplay
namespace CommandLine

/-- The option file that a command line asks for. -/
inductive OptionFile where
  /-- The default file, if it is there. -/
  | standard
  | named (file : Text)
  /-- The option stands there, but nothing is left of its value. -/
  | absent
  deriving DecidableEq, Repr

inductive Request where
  | format (files : List Text) (config : OptionFile) (noEscape : Bool)
  | keywords
  | help (page : Page)
  deriving DecidableEq, Repr

inductive Complaint where
  | unknownCommand (word : Text)
  | unrecognized (arguments : List Text)
  | ambiguous (argument : Text) (spellings : List String)
  | valueMissing (flag : Flag)
  | valueIgnored (flag : Flag) (value : Text)
  | filesMissing
  deriving DecidableEq, Repr

def Complaint.message : Complaint → Text
  | unknownCommand word =>
      "argument COMMAND: invalid choice: " ++ Text.quoted word ++
        " (choose from 'format', 'keywords')"
  | unrecognized arguments =>
      "unrecognized arguments: " ++ (" " : Text).intercalate arguments
  | ambiguous argument spellings =>
      "ambiguous option: " ++ argument ++ " could match " ++ ", ".intercalate spellings
  | valueMissing flag => "argument " ++ flag.label ++ ": expected one argument"
  | valueIgnored flag value =>
      "argument " ++ flag.label ++ ": ignored explicit argument " ++ Text.quoted value
  | filesMissing => "the following arguments are required: FILE"

/-- Arguments are refused with the usage of the page that they were read for. -/
structure Refusal where
  page : Page
  complaint : Complaint
  deriving DecidableEq, Repr

def Refusal.lines (r : Refusal) : List Text :=
  [r.page.usage, r.page.title ++ ": error: " ++ r.complaint.message]

/-! ### Kinds of arguments -/

/-- A recognised option, with the value that is attached to it. -/
structure Given where
  flag : Flag
  isShort : Bool
  value : Option Text
  deriving DecidableEq, Repr

inductive Piece where
  | word
  | doubleDash
  | option (given : Given)
  | unknownOption
  deriving DecidableEq, Repr

def dash : CodePoint := .char '-'

def startsLong (argument : Text) : Bool :=
  [dash, dash].isPrefixOf argument

/-- The text before the first equals sign, and the text after it if there is one. -/
def splitValue (argument : Text) : Text × Option Text :=
  let name := argument.takeWhile (· != .char '=')
  match argument.drop name.length with
  | [] => (argument, none)
  | _ :: value => (name, some value)

def flagOf? (page : Page) (spelling : Text) : Option Flag :=
  (page.options.find? fun option ↦ Text.ofString option.1 == spelling).map Prod.snd

/-- The options that a shortened or combined spelling may stand for. -/
def candidates (page : Page) (argument : Text) : List (String × Given) :=
  if startsLong argument then
    let (name, value) := splitValue argument
    (page.options.filter fun option ↦ name.isPrefixOf (Text.ofString option.1)).map
      fun (spelling, flag) ↦ (spelling, ⟨flag, false, value⟩)
  else
    (page.options.filter fun option ↦ Text.ofString option.1 == argument.take 2).map
      fun (spelling, flag) ↦ (spelling, ⟨flag, true, some (argument.drop 2)⟩)

def isDigit (p : CodePoint) : Bool :=
  (p.char?.bind Text.digitValue?).isSome

/-- A minus and a number with at most one point, which has a digit at its end.  A final line
feed does not count. -/
def isNegativeNumber (argument : Text) : Bool :=
  let text := if argument.getLast? = some (.char '\n') then argument.dropLast else argument
  match text with
  | [] => false
  | sign :: rest =>
      sign == dash &&
        match rest.dropWhile isDigit with
        | [] => !rest.isEmpty
        | point :: digits => point == .char '.' && !digits.isEmpty && digits.all isDigit

def ofSpelling? (page : Page) (argument : Text) : Option Given :=
  match flagOf? page argument with
  | some flag => some ⟨flag, !startsLong argument, none⟩
  | none =>
      match splitValue argument with
      | (name, some value) =>
          (flagOf? page name).map fun flag ↦ ⟨flag, !startsLong name, some value⟩
      | (_, none) => none

/-- The kind of an argument in front of a double dash. -/
def pieceOf (page : Page) (argument : Text) : Except Complaint Piece :=
  if argument.head? ≠ some dash ∨ argument = [dash] then .ok .word
  else
    match ofSpelling? page argument with
    | some given => .ok (.option given)
    | none =>
        match candidates page argument with
        | [(_, given)] => .ok (.option given)
        | [] =>
            if isNegativeNumber argument || argument.contains (.char ' ') then .ok .word
            else .ok .unknownOption
        | several => .error (.ambiguous argument (several.map Prod.fst))

abbrev Pieces := List (Text × Piece)

def sort (page : Page) : List Text → Except Complaint Pieces
  | [] => .ok []
  | argument :: rest =>
      if argument = [dash, dash] then
        .ok ((argument, .doubleDash) :: rest.map fun a ↦ (a, .word))
      else do
        let piece ← pieceOf page argument
        return (argument, piece) :: (← sort page rest)

/-! ### Options -/

/-- What ends the reading of arguments early. -/
inductive Stop where
  | help
  | complaint (complaint : Complaint)
  deriving DecidableEq, Repr

/-- Asks for help by letters after one dash, of which only the letter of help is known. -/
def helpLetters : Text → Stop
  | [] => .complaint (.valueIgnored .help [])
  | c :: rest =>
      if c = .char 'h' then if rest.isEmpty then .help else helpLetters rest
      else .complaint (.valueIgnored .help (c :: rest))

/-- An option that takes no value: help stops the reading, and so does a value. -/
def checkBare (given : Given) : Except Stop Unit :=
  match given.value with
  | none => if given.flag = .help then .error .help else .ok ()
  | some value =>
      if given.isShort then .error (helpLetters value)
      else .error (.complaint (.valueIgnored given.flag value))

/-! ### Commands -/

/-- How far the arguments of a command were read. -/
structure Progress where
  files : List Text
  /-- Whether the next word is a file. -/
  takesFiles : Bool
  config : OptionFile
  /-- The option whose value is the next word. -/
  awaiting : Option Flag
  noEscape : Bool
  leftOver : List Text

namespace Progress

def start (takesFiles : Bool) : Progress := ⟨[], takesFiles, .standard, none, false, []⟩

def leave (s : Progress) (argument : Text) : Progress :=
  { s with leftOver := s.leftOver ++ [argument] }

def word (s : Progress) (argument : Text) : Progress :=
  if s.takesFiles then { s with files := s.files ++ [argument] } else s.leave argument

/-- An option ends the run of files, if it has begun. -/
def endRun (s : Progress) : Progress :=
  { s with takesFiles := s.takesFiles && s.files.isEmpty }

/-- A double dash belongs to the files if it has a word on some side. -/
def doubleDash (s : Progress) (argument : Text) (isLast : Bool) : Progress :=
  if s.takesFiles && !(s.files.isEmpty && isLast) then s else s.leave argument

/-- Takes the value of the option file.  A double dash is dropped, also where it is a value. -/
def setConfig (s : Progress) (value : Text) : Progress :=
  let config := if value = [dash, dash] then .absent else .named value
  { s with config := config, awaiting := none }

def option (s : Progress) (given : Given) : Except Stop Progress :=
  if given.flag.takesValue then
    match given.value with
    | some value => .ok (s.setConfig value)
    | none => .ok { s with awaiting := some given.flag }
  else
    (checkBare given).map fun _ ↦
      if given.flag = .noEscape then { s with noEscape := true } else s

def step (s : Progress) (argument : Text) (piece : Piece) (isLast : Bool) :
    Except Stop Progress :=
  match s.awaiting, piece with
  | some _, .word => .ok (s.setConfig argument)
  | some flag, _ => .error (.complaint (.valueMissing flag))
  | none, .word => .ok (s.word argument)
  | none, .doubleDash => .ok (s.doubleDash argument isLast)
  | none, .unknownOption => .ok (s.endRun.leave argument)
  | none, .option given => s.endRun.option given

end Progress

def readCommand (s : Progress) : Pieces → Except Stop Progress
  | [] =>
      match s.awaiting with
      | some flag => .error (.complaint (.valueMissing flag))
      | none => .ok s
  | (argument, piece) :: rest =>
      match s.step argument piece rest.isEmpty with
      | .ok s => readCommand s rest
      | .error stop => .error stop

/-- The outcome of a command's arguments: a request and what is left over. -/
def command (page : Page) (arguments : List Text) :
    Except Refusal (Request × List Text) := do
  let refuse := Refusal.mk page
  let pieces ← (sort page arguments).mapError refuse
  match readCommand (.start (page == .format)) pieces with
  | .error .help => return (.help page, [])
  | .error (.complaint c) => throw (refuse c)
  | .ok s =>
      if page = .keywords then return (.keywords, s.leftOver)
      else if s.files.isEmpty then throw (refuse .filesMissing)
      else return (.format s.files s.config s.noEscape, s.leftOver)

def commandPage? (word : Text) : Option Page :=
  if word = "format" then some .format
  else if word = "keywords" then some .keywords
  else none

def refuseProgram {α : Type} (c : Complaint) : Except Refusal α :=
  .error ⟨.program, c⟩

/-- A request stands only if nothing is left over. -/
def concluded (request : Request) (leftOver : List Text) : Except Refusal Request :=
  if leftOver.isEmpty then .ok request else refuseProgram (.unrecognized leftOver)

/-- Reads the options in front of the command and then the command. -/
def readProgram (leftOver : List Text) : Pieces → Except Refusal Request
  | [] => concluded (.help .program) leftOver
  | (argument, .word) :: rest =>
      match commandPage? argument with
      | none => refuseProgram (.unknownCommand argument)
      | some page => do
          match ← command page (rest.map Prod.fst) with
          | (.help page, _) => return .help page
          | (request, more) => concluded request (leftOver ++ more)
  | (argument, .doubleDash) :: rest =>
      if rest.isEmpty then concluded (.help .program) (leftOver ++ [argument])
      else refuseProgram (.unknownCommand argument)
  | (argument, .unknownOption) :: rest => readProgram (leftOver ++ [argument]) rest
  | (_, .option given) :: rest =>
      match checkBare given with
      | .ok _ => readProgram leftOver rest
      | .error .help => .ok (.help .program)
      | .error (.complaint c) => refuseProgram c

/-- Reads a command line.  No arguments at all ask for help. -/
def parse (arguments : List Text) : Except Refusal Request := do
  let pieces ← (sort .program arguments).mapError (Refusal.mk .program)
  readProgram [] pieces

end CommandLine
end TypeDisplay
