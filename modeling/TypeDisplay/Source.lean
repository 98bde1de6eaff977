import TypeDisplay.Descriptor.Depth
import TypeDisplay.Validation
import TypeDisplay.Validation.Endless
import TypeDisplay.Yaml.Building
import TypeDisplay.Yaml.Written

/-!
# Descriptor sources

A source is the text of one descriptor together with a label that names it in messages.
The text is YAML, and its document is a mapping that is valid as a descriptor.
-/

namespace TypeDisplay

inductive SourceError where
  | malformed (label : Text)
  | notMapping (label : Text)
  | invalid (label : Text) (details : List Detail)
  /-- A scalar whose text is no value of its tag. -/
  | badScalar (cause : Yaml.BadScalar)
  deriving DecidableEq, Repr

namespace SourceError

/-- The message as far as it is the program's own. -/
def message : SourceError → Text
  | malformed label => "Invalid YAML in descriptor '" ++ label ++ "'"
  | notMapping label => label ++ ": descriptor must be a YAML mapping"
  | invalid label _ => "Invalid descriptor '" ++ label ++ "'"
  | badScalar cause => cause.message

/-- The message with what the reader of YAML or the validation says of the text.  If that is not
known, the details are counted. -/
def report (said : Option Text) : SourceError → Text
  | malformed label => (malformed label).message ++ Yaml.remark said
  | invalid label details =>
      (invalid label details).message ++ Yaml.remark (said.getD (Detail.count details))
  | error => error.message

end SourceError

namespace Source

/-- The label of a source that has no name. -/
def unnamed : Text := "<string>"

def isMapping : Document → Bool
  | .mapping _ => true
  | _ => false

def parse (text : Text) (label : Text := unnamed) : Except SourceError Descriptor :=
  match Yaml.read text with
  | .error (.malformed _) => .error (.malformed label)
  | .error (.badScalar cause) => .error (.badScalar cause)
  | .ok linked =>
      let document := linked.unrolled
      if isMapping document then (Descriptor.validate document).mapError (.invalid label)
      else .error (.notMapping label)

/-- The text of a descriptor, from its complete document. -/
def print (d : Descriptor) : Except DepthError String :=
  d.document.map fun document ↦ String.ofList (Yaml.write document)

end Source
end TypeDisplay
