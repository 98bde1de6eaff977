import TypeDisplay.Text.CodePoint

/-!
# Type descriptors

A descriptor is the structure of a type: a primitive, `void`, a free parameter, a named
type, or an array, pointer or nullable around another descriptor.  A named type is a
namespace and a chain of nesting levels, outermost first, and each level carries its own
type arguments.

The type holds more than what readers and builders produce: `WellFormed` adds that every
rank is positive and that no chain of levels is empty.
-/

namespace TypeDisplay

/-- The built-in types, which display as their keyword. -/
inductive Primitive where
  | object | bool | char | sbyte | byte | short | ushort | int | uint | long | ulong
  | float | double | decimal | string
  deriving DecidableEq, Repr

namespace Primitive

def all : List Primitive :=
  [object, bool, char, sbyte, byte, short, ushort, int, uint, long, ulong, float, double,
    decimal, string]

def keyword : Primitive → String
  | object => "object"
  | bool => "bool"
  | char => "char"
  | sbyte => "sbyte"
  | byte => "byte"
  | short => "short"
  | ushort => "ushort"
  | int => "int"
  | uint => "uint"
  | long => "long"
  | ulong => "ulong"
  | float => "float"
  | double => "double"
  | decimal => "decimal"
  | string => "string"

def ofKeyword? (word : String) : Option Primitive :=
  all.find? fun p ↦ p.keyword == word

theorem keyword_injective {p q : Primitive} (h : p.keyword = q.keyword) : p = q := by
  revert h
  cases p <;> cases q <;> decide

theorem ofKeyword?_eq_some_iff {word : String} {p : Primitive} :
    ofKeyword? word = some p ↔ word = p.keyword := by
  constructor
  · intro h
    have found := List.find?_some h
    exact (by simpa using found : p.keyword = word).symm
  · rintro rfl
    cases p <;> decide

/-- `object` and `string` are the reference types among the primitives. -/
def isReference : Primitive → Bool
  | object | string => true
  | _ => false

end Primitive

/-- A generic definition with display syntax of its own. -/
inductive WellKnown where
  | nullable
  deriving DecidableEq, Repr

def WellKnown.identity : WellKnown → String
  | .nullable => "System.Nullable`1"

/-- One level of an enclosing chain: a simple name and its own type arguments. -/
structure Level (α : Type) where
  name : Text
  arguments : List α

inductive Descriptor where
  | primitive (type : Primitive)
  | void
  | parameter (name : Text)
  | named (segments : List Text) (levels : List (Level Descriptor))
      (valueType : Option Bool) (wellKnown : Option WellKnown)
  | array (element : Descriptor) (rank : Int) (multiDimensional : Bool)
  | pointer (pointee : Descriptor)
  | nullable (underlying : Descriptor)

namespace Descriptor

/-! Equality is decided field by field, through the levels and their arguments. -/

mutual

def equal : Descriptor → Descriptor → Bool
  | primitive p, primitive q => p == q
  | void, void => true
  | parameter a, parameter b => a == b
  | named s ls v w, named s' ls' v' w' =>
      s == s' && equalLevels ls ls' && v == v' && w == w'
  | array e r m, array e' r' m' => equal e e' && r == r' && m == m'
  | pointer p, pointer q => equal p q
  | nullable u, nullable v => equal u v
  | _, _ => false

def equalLevels : List (Level Descriptor) → List (Level Descriptor) → Bool
  | [], [] => true
  | ⟨a, as⟩ :: ls, ⟨b, bs⟩ :: ls' => a == b && equalAll as bs && equalLevels ls ls'
  | _, _ => false

def equalAll : List Descriptor → List Descriptor → Bool
  | [], [] => true
  | a :: as, b :: bs => equal a b && equalAll as bs
  | _, _ => false

end

mutual

theorem equal_iff : ∀ a b : Descriptor, equal a b = true ↔ a = b
  | primitive _, b => by cases b <;> simp [equal]
  | void, b => by cases b <;> simp [equal]
  | parameter _, b => by cases b <;> simp [equal]
  | named _ ls _ _, b => by cases b <;> simp [equal, equalLevels_iff ls, and_assoc]
  | array e _ _, b => by cases b <;> simp [equal, equal_iff e, and_assoc]
  | pointer p, b => by cases b <;> simp [equal, equal_iff p]
  | nullable u, b => by cases b <;> simp [equal, equal_iff u]

theorem equalLevels_iff : ∀ a b : List (Level Descriptor), equalLevels a b = true ↔ a = b
  | [], b => by cases b <;> simp [equalLevels]
  | ⟨_, as⟩ :: ls, b => by
    rcases b with _ | ⟨⟨_, _⟩, _⟩ <;>
      simp [equalLevels, equalAll_iff as, equalLevels_iff ls]

theorem equalAll_iff : ∀ a b : List Descriptor, equalAll a b = true ↔ a = b
  | [], b => by cases b <;> simp [equalAll]
  | a :: as, b => by cases b <;> simp [equalAll, equal_iff a, equalAll_iff as]

end

instance : DecidableEq Descriptor := fun a b ↦
  decidable_of_iff (equal a b = true) (equal_iff a b)

/-! ### Well-formed descriptors -/

mutual

/-- Every rank is at least one and every named type has a level, at every depth. -/
def WellFormed : Descriptor → Prop
  | primitive _ | void | parameter _ => True
  | named _ ls _ _ => ls ≠ [] ∧ WellFormedLevels ls
  | array e r _ => 1 ≤ r ∧ WellFormed e
  | pointer p => WellFormed p
  | nullable u => WellFormed u

def WellFormedLevels : List (Level Descriptor) → Prop
  | [] => True
  | ⟨_, as⟩ :: ls => WellFormedAll as ∧ WellFormedLevels ls

def WellFormedAll : List Descriptor → Prop
  | [] => True
  | a :: as => WellFormed a ∧ WellFormedAll as

end

/-- The type arguments of all levels of a chain, outermost level first. -/
def argumentsOf (levels : List (Level Descriptor)) : List Descriptor :=
  levels.flatMap Level.arguments

end Descriptor
end TypeDisplay
