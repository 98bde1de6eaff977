import TypeDisplay.Document.Shown
import TypeDisplay.Yaml.Building

/-!
# Options

Options say how names are displayed.  They are written as a mapping with one possible key;
no document at all stands for the defaults.  Keys that are not known are reported together,
in code point order, before the known one is looked at.  A key that is an integer too long to be
written ends the reading.
-/

namespace TypeDisplay

structure Options where
  escapeKeywords : Bool := true
  deriving DecidableEq, Repr

/-- Why a text gives no options; the label names the text. -/
inductive OptionsError where
  | malformed (label : Text)
  | notMapping (label : Text)
  | unknownFields (label : Text) (fields : List Text)
  | notFlag (label : Text)
  | badScalar (cause : Yaml.BadScalar)
  | unwritableField
  deriving DecidableEq, Repr

namespace Options

def escapeKey : String := "escape-keywords"

def unknownKeys (entries : List Document.Entry) : List Scalar :=
  (entries.map Prod.fst).filter fun key ↦ key != .text (.ofString escapeKey)

/-- The texts of keys, in code point order. -/
def fieldTexts (keys : List Scalar) : List Text :=
  (keys.map Scalar.shown).mergeSort Text.isLessOrEqual

def ofEntries (label : Text) (entries : List Document.Entry) :
    Except OptionsError Options :=
  match unknownKeys entries with
  | [] =>
      match Document.field? entries escapeKey with
      | none => .ok {}
      | some (.scalar (.bool b)) => .ok ⟨b⟩
      | some _ => .error (.notFlag label)
  | keys =>
      if keys.all Scalar.isWritable then .error (.unknownFields label (fieldTexts keys))
      else .error .unwritableField

def ofDocument (label : Text) : Document → Except OptionsError Options
  | .scalar .null => .ok {}
  | .mapping entries => ofEntries label entries
  | _ => .error (.notMapping label)

def parse (text : Text) (label : Text := "<string>") : Except OptionsError Options :=
  match Yaml.read text with
  | .error (.malformed _) => .error (.malformed label)
  | .error (.badScalar cause) => .error (.badScalar cause)
  | .ok linked => ofDocument label linked.top

end Options

namespace OptionsError

/-- The message as far as it is the program's own. -/
def message : OptionsError → Text
  | malformed label => "Invalid YAML in " ++ label
  | notMapping label => label ++ ": config must be a YAML mapping"
  | unknownFields label fields =>
      label ++ ": unknown field(s): " ++ (", " : Text).intercalate fields
  | notFlag label => label ++ ": '" ++ Options.escapeKey ++ "' must be a boolean"
  | badScalar cause => cause.message
  | unwritableField =>
      "Exceeds the limit (4300 digits) for integer string conversion; " ++
        "use sys.set_int_max_str_digits() to increase the limit"

/-- The message with what the reader of YAML says of the text. -/
def report (said : Option Text) : OptionsError → Text
  | malformed label => (malformed label).message ++ Yaml.remark said
  | error => error.message

/-- Whether the error is reported, and does not end the program. -/
def isReported : OptionsError → Bool
  | badScalar _ | unwritableField => false
  | _ => true

end OptionsError
end TypeDisplay
