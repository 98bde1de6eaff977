import TypeDisplay.Descriptor

/-!
# Display variants

Seven variants of display, decided by the outermost layer of a descriptor.  A named type
that is tagged as the nullable wrapper displays as a nullable, unless one of its arguments
is a free parameter: the unconstructed definition is an ordinary named type.
-/

namespace TypeDisplay

inductive Kind where
  | primitive | void | named | parameter | array | pointer | nullable
  deriving DecidableEq, Repr

def Kind.label : Kind → String
  | primitive => "primitive"
  | void => "void"
  | named => "named"
  | parameter => "parameter"
  | array => "array"
  | pointer => "pointer"
  | nullable => "nullable"

namespace Descriptor

def isParameter : Descriptor → Bool
  | parameter _ => true
  | _ => false

/-- A chain of levels is constructed when none of its arguments is a free parameter. -/
def isConstructed (levels : List (Level Descriptor)) : Bool :=
  levels.all fun level ↦ level.arguments.all fun argument ↦ !argument.isParameter

/-- A constructed named type that carries the nullable identity. -/
def isNullableWrapper : Descriptor → Bool
  | named _ levels _ (some .nullable) => isConstructed levels
  | _ => false

def kind : Descriptor → Kind
  | primitive _ => .primitive
  | void => .void
  | parameter _ => .parameter
  | named segments levels valueType wellKnown =>
      if isNullableWrapper (named segments levels valueType wellKnown) then .nullable
      else .named
  | array _ _ _ => .array
  | pointer _ => .pointer
  | nullable _ => .nullable

/-- What the descriptor says about being a value type.  Free parameters, and named types
that are not flagged either way, count as value types. -/
def isValueType : Descriptor → Bool
  | primitive type => !type.isReference
  | parameter _ | nullable _ => true
  | named segments levels valueType wellKnown =>
      isNullableWrapper (named segments levels valueType wellKnown) ||
        valueType != some false
  | void | array _ _ _ | pointer _ => false

theorem kind_eq_nullable_iff {d : Descriptor} :
    d.kind = .nullable ↔ (∃ u, d = nullable u) ∨ d.isNullableWrapper = true := by
  cases d with
  | named segments levels valueType wellKnown => simp [kind]
  | _ => simp [kind, isNullableWrapper]

end Descriptor
end TypeDisplay
