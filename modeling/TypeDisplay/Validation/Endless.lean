import TypeDisplay.Document.Linked
import TypeDisplay.Validation.Model

/-!
# Documents that contain themselves

A document that contains itself describes no descriptor.  Validation follows its links until it
enters a mapping for the second time in the same way, and there the document ends.  A way of
entering is a model in a scope.

Only what validation looks at is followed.
-/

namespace TypeDisplay

structure Visit where
  value : Nat
  scope : Model
  model : Model
  deriving DecidableEq, Repr

/-- The visits around a place, and the scope there. -/
structure Surroundings where
  visits : List Visit
  scope : Option Model

namespace Surroundings

def outermost : Surroundings := ⟨[], none⟩

/-- How a mapping would be entered at a place. -/
def visit (around : Surroundings) (value : Nat) (model : Model) : Visit :=
  ⟨value, model.scope around.scope, model⟩

def enter (around : Surroundings) (visit : Visit) : Surroundings :=
  ⟨visit :: around.visits, some visit.scope⟩

end Surroundings

namespace Linked

def field? (entries : List (Scalar × Nat)) (name : String) : Option Nat :=
  (entries.find? fun entry ↦ entry.1 = .text (.ofString name)).map Prod.snd

/-- The model that a mapping is read as, and the label that names it. -/
def model? (d : Linked) (expected : Expected) (entries : List (Scalar × Nat)) :
    Option (Model × Option String) :=
  match expected with
  | .level => some (.level, none)
  | .descriptor =>
      (Document.variant? ((field? entries "kind").map d.outline)).bind fun kind ↦
        (Model.ofKind? kind).map fun model ↦ (model, some kind.label)
  | _ => none

def follow (d : Linked) : (fuel : Nat) → Expected → Surroundings → (number : Nat) → Document
  | 0, _, _, _ => .null
  | fuel + 1, expected, around, number =>
      match expected, d.value number with
      | .shown, _ => d.expansion number
      | .outline, _ => d.outline number
      | _, .list items => .list (items.map (follow d fuel expected.ofItem around))
      | _, .pairs items => .list (items.map fun _ ↦ .pair .null .null)
      | _, .mapping entries =>
          match d.model? expected entries with
          | none =>
              .mapping (entries.map fun (key, value) ↦
                (key, follow d fuel (.under none key) around value))
          | some (model, label) =>
              let visit := around.visit number model
              if around.visits.contains visit then .cut .cycle label
              else
                let around := around.enter visit
                .mapping (entries.map fun (key, value) ↦
                  (key, follow d fuel (.under (some model) key) around value))
      | _, _ => d.outline number

/-- The document that validation sees.  A mapping is entered in at most 25 ways, and at most two
lists stand between one mapping and the next. -/
def unrolled (d : Linked) : Document :=
  d.follow (75 * (d.values.size + 1)) .descriptor .outermost d.root

end Linked
end TypeDisplay
