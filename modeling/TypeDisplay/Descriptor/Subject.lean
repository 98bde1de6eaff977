import TypeDisplay.Descriptor.Name
import TypeDisplay.Document.Shown

/-!
# Values handed over as descriptors

Display works on descriptors only.  A value that is none is refused with its literal form,
except that it is never a nullable wrapper.
-/

namespace TypeDisplay

/-- What is handed over where a descriptor is expected. -/
inductive Subject where
  | type (descriptor : Descriptor)
  | value (value : Scalar)

inductive SubjectError where
  | notDescriptor (value : Scalar)
  | noName (error : NameError)
  deriving DecidableEq, Repr

def SubjectError.message : SubjectError → Text
  | notDescriptor value => "Not a type descriptor: " ++ value.literal
  | noName error => error.message

namespace Subject

def kind : Subject → Except SubjectError Kind
  | type d => .ok d.kind
  | value v => .error (.notDescriptor v)

def isValueType : Subject → Except SubjectError Bool
  | type d => .ok d.isValueType
  | value v => .error (.notDescriptor v)

def displayName (subject : Subject) (escaping : Bool := true) : Except SubjectError Text :=
  match subject with
  | type d => (d.displayName escaping).mapError .noName
  | value v => .error (.notDescriptor v)

def isNullableWrapper : Subject → Bool
  | type d => d.isNullableWrapper
  | value _ => false

end Subject
end TypeDisplay
