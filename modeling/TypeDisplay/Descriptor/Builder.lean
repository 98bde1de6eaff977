import TypeDisplay.Document.Shown
import TypeDisplay.Validation

/-!
# Builders

Descriptors are also put together step by step, from descriptors that were built before.
An argument is a descriptor or the name of a free parameter, and a namespace is a dotted
text.  A builder fails as the validation of the described document would, at places that
start inside the new descriptor.
-/

namespace TypeDisplay

inductive BuildError where
  /-- The value, of which this is the literal, is no keyword of a primitive. -/
  | unknownPrimitive (shown : String)
  | invalid (details : List Detail)
  deriving DecidableEq, Repr

def BuildError.message : BuildError → String
  | unknownPrimitive shown => shown ++ " is not a valid PrimitiveType"
  | invalid details => Detail.count details

/-- A type argument: a descriptor, or the name of a free parameter. -/
inductive Argument where
  | type (descriptor : Descriptor)
  | name (name : Text)

namespace Descriptor

def ofArgument : Argument → Descriptor
  | .type d => d
  | .name name => parameter name

/-- One level of a chain from its name and arguments. -/
def level (name : Text) (arguments : List Argument) : Level Descriptor :=
  ⟨name, arguments.map ofArgument⟩

/-- The segments of a dotted namespace.  Only the empty text has none. -/
def segmentsOf (dotted : Text) : List Text :=
  if dotted.isEmpty then [] else dotted.splitOn (.char '.')

def checked {α : Type} : Checked α → Except BuildError α
  | .ok a => .ok a
  | .error details => .error (.invalid details)

def buildPrimitive (keyword : Document) : Except BuildError Descriptor :=
  match Conversion.primitive keyword with
  | .ok p => .ok (primitive p)
  | .error _ => .error (.unknownPrimitive keyword.literal)

def buildParameter (name : Document) : Except BuildError Descriptor :=
  checked (((Conversion.text name).within (.name "name")).map parameter)

/-- A text in place of an argument list names one free parameter per code point. -/
def argumentsOfText (names : Text) : List Argument :=
  names.map fun p ↦ .name [p]

/-- One level of a chain, whose name may be any value. -/
def buildLevel (name : Document) (arguments : List Argument) :
    Except BuildError (Level Descriptor) :=
  checked (((Conversion.text name).within (.name "name")).map fun name ↦ level name arguments)

def buildNamed (dotted : Text) (levels : List (Level Descriptor))
    (valueType : Document := .null) : Except BuildError Descriptor :=
  let chain := (levelsOf ([], levels)).within (.name "levels")
  let flag := (Conversion.flag? valueType).within (.name "value_type")
  checked ((Checked.both chain flag).map fun (ls, v) ↦ named (segmentsOf dotted) ls v none)

def buildArray (element : Descriptor) (rank : Document := .int 1)
    (multiDimensional : Document := .bool false) : Except BuildError Descriptor :=
  let rank := (Conversion.rank rank).within (.name "rank")
  let flag := (Conversion.flag multiDimensional).within (.name "multi_dimensional")
  checked ((Checked.both rank flag).map fun (r, m) ↦ array element r m)

/-- `System.Nullable<argument>`, tagged with its well-known identity. -/
def nullableNamed (argument : Argument) : Descriptor :=
  named ["System"] [level "Nullable" [argument]] (some true) (some .nullable)

/-- A layer around a descriptor. -/
inductive Layer where
  | pointer
  | array (rank : Int)
  deriving DecidableEq, Repr

def wrapOnce (d : Descriptor) : Layer → Except BuildError Descriptor
  | .pointer => .ok (pointer d)
  | .array rank => buildArray d (.int rank)

/-- Wraps a descriptor in layers, the first one innermost. -/
def wrap (d : Descriptor) (layers : List Layer) : Except BuildError Descriptor :=
  layers.foldlM wrapOnce d

end Descriptor
end TypeDisplay
