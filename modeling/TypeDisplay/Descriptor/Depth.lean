import TypeDisplay.Descriptor.Document
import TypeDisplay.Validation.Model

/-!
# Descriptors that are too deep

The models of a descriptor's document are counted as in validation.  A descriptor in which more
models are counted at some place than may be has no document.  Only builders make one.
-/

namespace TypeDisplay

/-- A descriptor is too deep to have a document. -/
inductive DepthError where
  | tooDeep
  deriving DecidableEq, Repr

def DepthError.message : DepthError → String
  | tooDeep => "Maximum serialization depth exceeded"

namespace Descriptor

mutual

/-- How many models are counted at most at a place inside a descriptor. -/
def depth (scope : Option Model) : Descriptor → Nat
  | primitive _ | void | parameter _ => Model.leafWeight
  | named _ levels _ _ =>
      Model.named.weight scope + depthOfLevels (Model.named.scope scope) levels
  | array element _ _ =>
      Model.array.weight scope + depth (some (Model.array.scope scope)) element
  | pointer pointee =>
      Model.pointer.weight scope + depth (some (Model.pointer.scope scope)) pointee
  | nullable underlying =>
      Model.nullable.weight scope + depth (some (Model.nullable.scope scope)) underlying

def depthOfLevels (scope : Model) : List (Level Descriptor) → Nat
  | [] => 0
  | ⟨_, arguments⟩ :: rest =>
      max
        (Model.level.weight (some scope) +
          depthOfArguments (Model.level.scope (some scope)) arguments)
        (depthOfLevels scope rest)

def depthOfArguments (scope : Model) : List Descriptor → Nat
  | [] => 0
  | d :: rest => max (depth (some scope) d) (depthOfArguments scope rest)

end

def isTooDeep (d : Descriptor) : Bool :=
  Model.depthLimit < d.depth none

/-- The complete document of a descriptor that is not too deep. -/
def document (d : Descriptor) : Except DepthError Document :=
  if d.isTooDeep then .error .tooDeep else .ok d.toDocument

end Descriptor
end TypeDisplay
