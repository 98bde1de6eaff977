import TypeDisplay.Validation.Model

/-!
# Documents that are too deep

Validation counts the models around a place, and does not read a model for which there is no
room left.  A level is counted whatever it is, and so is a type argument that is the name of a
parameter.
-/

namespace TypeDisplay

/-- The scope of a place, and the room that is left there. -/
structure Room where
  scope : Option Model
  left : Nat

namespace Room

def whole : Room := ⟨none, Model.depthLimit⟩

def holdsLeaf (room : Room) : Bool := Model.leafWeight ≤ room.left

def holds (room : Room) (model : Model) : Bool := model.weight room.scope ≤ room.left

/-- The room inside a model. -/
def inside (room : Room) (model : Model) : Room :=
  ⟨some (model.scope room.scope), room.left - model.weight room.scope⟩

end Room

namespace Document

mutual

/-- The document with a mark in place of every model that is too deep. -/
def bounded (expected : Expected) (room : Room) : Document → Document
  | .mapping entries =>
      match expected with
      | .level =>
          if room.holds .level then
            .mapping (boundedEntries (some .level) (room.inside .level) entries)
          else .cut .depth none
      | .descriptor =>
          match variant? (field? entries "kind") with
          | none => .mapping entries
          | some kind =>
              match Model.ofKind? kind with
              | none =>
                  if room.holdsLeaf then .mapping entries else .cut .depth (some kind.label)
              | some model =>
                  if room.holds model then
                    .mapping (boundedEntries (some model) (room.inside model) entries)
                  else .cut .depth (some kind.label)
      | _ => .mapping entries
  | .list items =>
      match expected with
      | .levels => .list (boundedItems .level room items)
      | .arguments => .list (boundedItems .descriptor room items)
      | .level => if room.holds .level then .list items else .cut .depth none
      | _ => .list items
  | .set items =>
      match expected with
      | .levels =>
          if room.holds .level then .set items
          else .list (items.map fun _ ↦ .cut .depth none)
      | .level => if room.holds .level then .set items else .cut .depth none
      | _ => .set items
  | .cut cutoff label => .cut cutoff label
  | d =>
      if expected = .level ∧ !room.holds .level then .cut .depth none else d

/-- The items of a list; those that are names of parameters count as well. -/
def boundedItems (expected : Expected) (room : Room) : List Document → List Document
  | [] => []
  | .scalar (.text name) :: rest =>
      (if expected = .descriptor ∧ !room.holdsLeaf then .cut .depth (some Kind.parameter.label)
        else bounded expected room (.scalar (.text name))) ::
        boundedItems expected room rest
  | item :: rest => bounded expected room item :: boundedItems expected room rest

def boundedEntries (model : Option Model) (room : Room) : List Entry → List Entry
  | [] => []
  | (key, value) :: rest =>
      (key, bounded (.under model key) room value) :: boundedEntries model room rest

end

end Document
end TypeDisplay
