import TypeDisplay.Validation.Model

/-!
# Details of a failed validation

A detail names a place in a document and what is wrong there.  The place is a list of
steps from the root: the label of each variant that was recognised, field names, and list
indices.
-/

namespace TypeDisplay

inductive Step where
  | name (name : Text)
  | index (index : Int)
  deriving DecidableEq, Repr

inductive Fault where
  | notDescriptor
  | kindMissing
  | kindUnknown (shown : String)
  | fieldMissing
  | fieldUnknown
  | keyNotText
  | notPrimitive
  | notWellKnown
  | notText
  | textUndecodable
  | notSequence
  | notLevel
  | noLevel
  | notInteger
  | integerUnreadable
  | integerTooLarge
  | fractionalPart
  | notFinite
  | belowOne
  | notFlag
  | flagUnreadable
  | endless
  | tooDeep
  deriving DecidableEq, Repr

structure Detail where
  place : List Step
  fault : Fault
  deriving DecidableEq, Repr

namespace Fault

/-- Words in apostrophes, with commas between them and `or` before the last one. -/
def alternatives (words : List String) : String :=
  match words.reverse with
  | [] => ""
  | [word] => "'" ++ word ++ "'"
  | last :: rest =>
      ", ".intercalate (rest.reverse.map fun word ↦ "'" ++ word ++ "'") ++ " or '" ++ last ++
        "'"

def code : Fault → String
  | notDescriptor => "model_attributes_type"
  | kindMissing => "union_tag_not_found"
  | kindUnknown _ => "union_tag_invalid"
  | fieldMissing => "missing"
  | fieldUnknown => "extra_forbidden"
  | keyNotText => "invalid_key"
  | notPrimitive | notWellKnown => "enum"
  | notText => "string_type"
  | textUndecodable => "string_unicode"
  | notSequence => "tuple_type"
  | notLevel => "model_type"
  | noLevel => "too_short"
  | notInteger => "int_type"
  | integerUnreadable => "int_parsing"
  | integerTooLarge => "int_parsing_size"
  | fractionalPart => "int_from_float"
  | notFinite => "finite_number"
  | belowOne => "greater_than_equal"
  | notFlag => "bool_type"
  | flagUnreadable => "bool_parsing"
  | endless => "recursion_loop"
  | tooDeep => "recursion_depth_exceeded"

def message : Fault → String
  | notDescriptor => "Input should be a valid dictionary or object to extract fields from"
  | kindMissing => "Unable to extract tag using discriminator 'kind'"
  | kindUnknown shown =>
      "Input tag '" ++ shown ++ "' found using 'kind' does not match any of the expected " ++
        "tags: " ++ ", ".intercalate (Kind.all.map fun kind ↦ "'" ++ kind.label ++ "'")
  | fieldMissing => "Field required"
  | fieldUnknown => "Extra inputs are not permitted"
  | keyNotText => "Keys should be strings"
  | notPrimitive => "Input should be " ++ alternatives (Primitive.all.map Primitive.keyword)
  | notWellKnown => "Input should be " ++ alternatives [WellKnown.nullable.identity]
  | notText => "Input should be a valid string"
  | textUndecodable =>
      "Input should be a valid string, unable to parse raw data as a unicode string"
  | notSequence => "Input should be a valid tuple"
  | notLevel => "Input should be a valid dictionary or instance of NestingLevel"
  | noLevel => "Tuple should have at least 1 item after validation, not 0"
  | notInteger => "Input should be a valid integer"
  | integerUnreadable => "Input should be a valid integer, unable to parse string as an integer"
  | integerTooLarge =>
      "Unable to parse input string as an integer, exceeded maximum size"
  | fractionalPart => "Input should be a valid integer, got a number with a fractional part"
  | notFinite => "Input should be a finite number"
  | belowOne => "Input should be greater than or equal to 1"
  | notFlag => "Input should be a valid boolean"
  | flagUnreadable => "Input should be a valid boolean, unable to interpret input"
  | endless => "Recursion error - cyclic reference detected"
  | tooDeep => "Recursion error - maximum validation depth exceeded"

def ofCutoff : Cutoff → Fault
  | .cycle => endless
  | .depth => tooDeep

end Fault

/-- The number of details, in words. -/
def Detail.count (details : List Detail) : String :=
  toString details.length ++
    (if details.length = 1 then " validation error" else " validation errors")

/-- A validated value, or everything that is wrong with it. -/
abbrev Checked (α : Type) := Except (List Detail) α

namespace Checked

variable {α β : Type}

def fail (fault : Fault) : Checked α :=
  .error [⟨[], fault⟩]

/-- Puts a step in front of every place. -/
def within (step : Step) : Checked α → Checked α
  | .ok a => .ok a
  | .error details => .error (details.map fun d ↦ ⟨step :: d.place, d.fault⟩)

/-- Both values, or the details of both in order. -/
def both : Checked α → Checked β → Checked (α × β)
  | .ok a, .ok b => .ok (a, b)
  | .ok _, .error details => .error details
  | .error details, .ok _ => .error details
  | .error details, .error others => .error (details ++ others)

/-- The value, provided that nothing else is wrong. -/
def provided : Checked α → List Detail → Checked α
  | .ok a, [] => .ok a
  | .ok _, details => .error details
  | .error details, others => .error (details ++ others)

def details : Checked α → List Detail
  | .ok _ => []
  | .error details => details

end Checked
end TypeDisplay
