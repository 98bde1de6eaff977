import TypeDisplay.Document.Shown
import TypeDisplay.Validation.Conversion
import TypeDisplay.Validation.Depth

/-!
# Validation of documents

A document is read as a descriptor: its `kind` selects a variant, whose fields are read in
the order of the grammar, each with everything that is wrong inside it, and unknown keys
follow in the order of the document.  Nothing is hidden by an earlier fault, except that
the lack of levels is only reported when no level is valid.
-/

namespace TypeDisplay
namespace Descriptor

open Document (Entry field?)

def fieldNames : Kind → List String
  | .primitive => ["primitive"]
  | .void => []
  | .parameter => ["name"]
  | .named => ["namespace", "levels", "value_type", "well_known"]
  | .array => ["element_type", "rank", "multi_dimensional"]
  | .pointer => ["pointee"]
  | .nullable => ["underlying"]

def levelFieldNames : List String :=
  ["name", "type_arguments"]

/-- The step that names a key which is not a text. -/
def keyStep (key : Scalar) : Step :=
  match key with
  | .text s => .name s
  | .bool b => .index (if b then 1 else 0)
  | .int n => if Conversion.fitsWord n then .index n else .name (Document.scalar key).shown
  | _ => .name key.literal

/-- The detail for a key that no field has. -/
def keyDetail? (known : List String) (key : Scalar) : Option Detail :=
  match key with
  | .text s =>
      if s.string?.any known.contains then none else some ⟨[.name s], .fieldUnknown⟩
  | _ => some ⟨[keyStep key], .keyNotText⟩

def unknownKeys (known : List String) (entries : List Entry) : List Detail :=
  entries.filterMap fun entry ↦ keyDetail? known entry.1

def isBroken : Scalar → Bool
  | .text s => s.string?.isNone
  | _ => false

/-- A mapping with such a key has no other fault. -/
def hasBrokenKey (entries : List Entry) : Bool :=
  entries.any fun entry ↦ isBroken entry.1

/-- A field whose value needs no further descriptor; `absent` stands for a field that is
not there. -/
def plainField {α : Type} (entries : List Entry) (name : String) (absent : Checked α)
    (read : Document → Checked α) : Checked α :=
  match field? entries name with
  | none => absent
  | some d => (read d).within (.name name)

def missing {α : Type} (name : String) : Checked α :=
  .error [⟨[.name name], .fieldMissing⟩]

/-- Levels that were read one by one: the valid ones if all are valid and there is one. -/
def levelsOf (read : List Detail × List (Level Descriptor)) :
    Checked (List (Level Descriptor)) :=
  if read.2.isEmpty then .error (read.1 ++ [⟨[], .noLevel⟩])
  else if read.1.isEmpty then .ok read.2
  else .error read.1

/-- Items that cannot be descriptors, such as octets and the scalars of a set. -/
def strayItems {α : Type} (fault : Fault) (count : Nat) : Checked (List α) :=
  if count = 0 then .ok []
  else .error ((List.range count).map fun i ↦ ⟨[.index (i : Nat)], fault⟩)

mutual

def ofDocument (d : Document) : Checked Descriptor :=
  match d with
  | .mapping entries =>
      match field? entries "kind" with
      | none => Checked.fail .kindMissing
      | some label =>
          match Document.variant? (some label) with
          | none => Checked.fail (.kindUnknown label.shown)
          | some kind =>
              if hasBrokenKey entries then
                (Checked.fail .textUndecodable).within (.name kind.label)
              else (ofEntries kind entries).within (.name kind.label)
  | .cut cutoff (some label) => (Checked.fail (.ofCutoff cutoff)).within (.name label)
  | _ => Checked.fail .notDescriptor
termination_by sizeOf d
decreasing_by all_goals simp_wf

def ofEntries (kind : Kind) (entries : List Entry) : Checked Descriptor :=
  let unknown := unknownKeys ("kind" :: fieldNames kind) entries
  match kind with
  | .primitive =>
      Checked.provided
        ((plainField entries "primitive" (missing "primitive") Conversion.primitive).map
          primitive)
        unknown
  | .void => Checked.provided (.ok void) unknown
  | .parameter =>
      Checked.provided
        ((plainField entries "name" (missing "name") Conversion.text).map parameter) unknown
  | .named =>
      let segments := plainField entries "namespace" (.ok []) Conversion.segments
      let levels :=
        match _h : field? entries "levels" with
        | none => missing "levels"
        | some d => (levelsOfDocument d).within (.name "levels")
      let valueType := plainField entries "value_type" (.ok none) Conversion.flag?
      let wellKnown := plainField entries "well_known" (.ok none) Conversion.wellKnown?
      Checked.provided
        ((Checked.both segments (Checked.both levels (Checked.both valueType wellKnown))).map
          fun (s, ls, v, w) ↦ named s ls v w)
        unknown
  | .array =>
      let element :=
        match _h : field? entries "element_type" with
        | none => missing "element_type"
        | some d => (ofDocument d).within (.name "element_type")
      let rank := plainField entries "rank" (.ok 1) Conversion.rank
      let flag := plainField entries "multi_dimensional" (.ok false) Conversion.flag
      Checked.provided
        ((Checked.both element (Checked.both rank flag)).map fun (e, r, m) ↦ array e r m)
        unknown
  | .pointer =>
      let pointee :=
        match _h : field? entries "pointee" with
        | none => missing "pointee"
        | some d => (ofDocument d).within (.name "pointee")
      Checked.provided (pointee.map pointer) unknown
  | .nullable =>
      let underlying :=
        match _h : field? entries "underlying" with
        | none => missing "underlying"
        | some d => (ofDocument d).within (.name "underlying")
      Checked.provided (underlying.map nullable) unknown
termination_by sizeOf entries
decreasing_by
  all_goals exact Document.sizeOf_field?_lt ‹_›

def levelsOfDocument (d : Document) : Checked (List (Level Descriptor)) :=
  match d with
  | .list items => levelsOf (levelsOfItems 0 items)
  | .set items =>
      match strayItems .notLevel items.length with
      | .ok levels => levelsOf ([], levels)
      | .error details => levelsOf (details, [])
  | _ => Checked.fail .notSequence
termination_by sizeOf d

/-- Reads levels one by one: what is wrong with them, and those that are valid. -/
def levelsOfItems (index : Nat) (items : List Document) :
    List Detail × List (Level Descriptor) :=
  match items with
  | [] => ([], [])
  | d :: rest =>
      let (details, levels) := levelsOfItems (index + 1) rest
      match (levelOfDocument d).within (.index index) with
      | .ok level => (details, level :: levels)
      | .error wrong => (wrong ++ details, levels)
termination_by sizeOf items
decreasing_by all_goals simp_wf <;> omega

def levelOfDocument (d : Document) : Checked (Level Descriptor) :=
  match d with
  | .mapping entries =>
      if hasBrokenKey entries then Checked.fail .textUndecodable
      else
        let name := plainField entries "name" (missing "name") Conversion.text
        let arguments :=
          match _h : field? entries "type_arguments" with
          | none => .ok []
          | some d => (argumentsOfDocument d).within (.name "type_arguments")
        Checked.provided ((Checked.both name arguments).map fun (n, as) ↦ ⟨n, as⟩)
          (unknownKeys levelFieldNames entries)
  | .cut cutoff _ => Checked.fail (.ofCutoff cutoff)
  | _ => Checked.fail .notLevel
termination_by sizeOf d
decreasing_by
  all_goals simp_wf
  exact Nat.lt_of_lt_of_le (Document.sizeOf_field?_lt ‹_›) (by omega)

/-- Reads type arguments.  Only in a list are texts the names of parameters. -/
def argumentsOfDocument (d : Document) : Checked (List Descriptor) :=
  match d with
  | .list items => argumentsOfItems 0 items
  | .set items => strayItems .notDescriptor items.length
  | .scalar (.bytes octets) => strayItems .notDescriptor octets.length
  | _ => Checked.fail .notSequence
termination_by sizeOf d

def argumentsOfItems (index : Nat) (items : List Document) : Checked (List Descriptor) :=
  match items with
  | [] => .ok []
  | d :: rest =>
      let first : Checked Descriptor :=
        match d with
        | .scalar (.text name) => .ok (parameter name)
        | d => (ofDocument d).within (.index index)
      (Checked.both first (argumentsOfItems (index + 1) rest)).map fun (a, as) ↦ a :: as
termination_by sizeOf items
decreasing_by all_goals simp_wf <;> omega

end

/-- Validates a document as a descriptor, no deeper than there is room for models. -/
def validate (d : Document) : Checked Descriptor :=
  ofDocument (d.bounded .descriptor .whole)

end Descriptor
end TypeDisplay
