import TypeDisplay.Document

/-!
# Linked documents

A document whose values refer to each other by number.  A value may be referred to from
several places, also from inside itself.
-/

namespace TypeDisplay

/-- A value with the numbers of the values in it.  Keys and members of sets are scalars. -/
inductive LinkedValue where
  | scalar (value : Scalar)
  | list (items : List Nat)
  | pairs (items : List (Nat × Nat))
  | set (items : List Scalar)
  | mapping (entries : List (Scalar × Nat))
  deriving DecidableEq, Repr

structure Linked where
  values : Array LinkedValue
  root : Nat
  deriving DecidableEq, Repr

namespace Linked

def null : Linked := ⟨#[.scalar .null], 0⟩

/-- The value with a number; there is no value but null without one. -/
def value (d : Linked) (number : Nat) : LinkedValue :=
  (d.values[number]?).getD (.scalar .null)

/-- A value without what is in it. -/
def outline (d : Linked) (number : Nat) : Document :=
  match d.value number with
  | .scalar s => .scalar s
  | .list _ | .pairs _ => .list []
  | .set items => .set items
  | .mapping _ => .mapping []

/-- The root with the outlines of what is in it. -/
def top (d : Linked) : Document :=
  match d.value d.root with
  | .mapping entries => .mapping (entries.map fun (key, value) ↦ (key, d.outline value))
  | _ => d.outline d.root

/-- A value with all that is in it.  Lists and mappings around a value are elided in it. -/
def expanded (d : Linked) : (fuel : Nat) → (around : List Nat) → (number : Nat) → Document
  | 0, _, _ => .null
  | fuel + 1, around, number =>
      let inner := expanded d fuel (number :: around)
      match d.value number with
      | .scalar s => .scalar s
      | .set items => .set items
      | .list items =>
          if around.contains number then .elided true else .list (items.map inner)
      | .pairs items =>
          if around.contains number then .elided true
          else .list (items.map fun (first, second) ↦ .pair (inner first) (inner second))
      | .mapping entries =>
          if around.contains number then .elided false
          else .mapping (entries.map fun (key, value) ↦ (key, inner value))

/-- A value with all that is in it. -/
def expansion (d : Linked) (number : Nat) : Document :=
  d.expanded (d.values.size + 1) [] number

end Linked
end TypeDisplay
