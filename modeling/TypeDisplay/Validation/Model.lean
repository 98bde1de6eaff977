import TypeDisplay.Document
import TypeDisplay.Descriptor.Kind

/-!
# Models

The mappings of a descriptor's document are read as models: a level, or one of the variants.  A
model is read in the scope of the models around it.  A model that stands before the scope in the
order of the grammar opens a scope of its own.

The models around a place are counted.  The first model counts twice, and so does a model that
opens a scope, apart from a level in the scope of its named type.
-/

namespace TypeDisplay

namespace Kind

/-- The variants in the order of the descriptor grammar. -/
def all : List Kind :=
  [primitive, void, parameter, named, array, pointer, nullable]

def ofLabel? (label : String) : Option Kind :=
  all.find? fun kind ↦ kind.label == label

theorem ofLabel?_label (kind : Kind) : ofLabel? kind.label = some kind := by
  cases kind <;> decide

end Kind

/-- The models that hold further models, in the order of the grammar. -/
inductive Model where
  | level | named | array | pointer | nullable
  deriving DecidableEq, Repr

namespace Model

def order : Model → Nat
  | level => 0
  | named => 1
  | array => 2
  | pointer => 3
  | nullable => 4

def ofKind? : Kind → Option Model
  | .named => some named
  | .array => some array
  | .pointer => some pointer
  | .nullable => some nullable
  | _ => none

def opensScope (outer : Option Model) (model : Model) : Bool :=
  match outer with
  | none => true
  | some outer => model.order < outer.order

def scope (outer : Option Model) (model : Model) : Model :=
  match outer with
  | none => model
  | some outer => if model.order < outer.order then model else outer

/-- How often a model counts. -/
def weight (outer : Option Model) (model : Model) : Nat :=
  if opensScope outer model && !(outer == some named && model == level) then 2 else 1

/-- The weight of a model that holds no further models. -/
def leafWeight : Nat := 1

/-- How many models may be counted at a place. -/
def depthLimit : Nat := 255

end Model

/-- What validation expects at a place. -/
inductive Expected where
  | descriptor | level | levels | arguments | segments
  /-- A value that is only shown. -/
  | shown
  /-- A value of which nothing but the outline counts. -/
  | outline
  deriving DecidableEq, Repr

namespace Expected

/-- What is expected under a key of a model. -/
def under (model : Option Model) (key : Scalar) : Expected :=
  match model, key.string? with
  | some .level, some "type_arguments" => arguments
  | some .named, some "levels" => levels
  | some .named, some "namespace" => segments
  | some .array, some "element_type" => descriptor
  | some .pointer, some "pointee" => descriptor
  | some .nullable, some "underlying" => descriptor
  | some .level, _ => outline
  | _, some "kind" => shown
  | _, _ => outline

def ofItem : Expected → Expected
  | levels => level
  | arguments => descriptor
  | _ => outline

end Expected

namespace Document

/-- The variant that the value of the key `kind` names. -/
def variant? (kind : Option Document) : Option Kind :=
  match kind with
  | some (.scalar label) => label.string?.bind Kind.ofLabel?
  | _ => none

end Document
end TypeDisplay
