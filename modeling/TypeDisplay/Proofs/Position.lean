import TypeDisplay.Proofs.Role

/-!
# Positions in a document

A position is a value together with its role and the room that is left for models there.  The place
of a detail leads from a document to a position: names of fields and indices of items lead on to
parts, and the label of a recognised variant stays where it is.

A detail is justified when its place leads to what it is about: a required field that is not there,
a key that is not declared, a list of levels none of which is acceptable, or a value that would not
be acceptable whatever its parts were.
-/

namespace TypeDisplay

open Document (Entry field? text)

namespace Document

/-- No mapping has two entries with the same key. -/
inductive HasDistinctKeys : Document → Prop where
  | scalar (s : Scalar) : HasDistinctKeys (.scalar s)
  | list {items : List Document} (each : ∀ x ∈ items, HasDistinctKeys x) :
      HasDistinctKeys (.list items)
  | mapping {entries : List Entry} (distinct : (entries.map Prod.fst).Nodup)
      (each : ∀ entry ∈ entries, HasDistinctKeys entry.2) : HasDistinctKeys (.mapping entries)

/-- The documents differ in the items of one list, or in the values of one mapping other than its
kind. -/
inductive SameOutline : Document → Document → Prop where
  | same (v : Document) : SameOutline v v
  | list (items others : List Document) : SameOutline (.list items) (.list others)
  | mapping {entries others : List Entry} (keys : entries.map Prod.fst = others.map Prod.fst)
      (kind : field? entries "kind" = field? others "kind") :
      SameOutline (.mapping entries) (.mapping others)

end Document

/-- The room for the values of the fields of a model. -/
def Room.insideForm (room : Room) (form : Form) : Room :=
  match form.model? with
  | some model => room.inside model
  | none => room

structure Position where
  role : Role
  room : Room
  value : Document

namespace Position

/-- The variant as which a value is recognised; its label follows in the place. -/
def variant? (p : Position) : Option Kind :=
  match p.role, p.value with
  | .descriptor, .mapping entries => Document.variant? (field? entries "kind")
  | .argument, .mapping entries => Document.variant? (field? entries "kind")
  | .argument, .scalar (.text _) => some .parameter
  | _, _ => none

/-- The position to which a step leads. -/
def next? (p : Position) : Step → Option Position
  | .name s =>
      match p.role, p.value with
      | .fields form, .mapping entries =>
          (form.field? s).bind fun field ↦
            (field? entries field.name).map fun v ↦ ⟨field.role, p.room.insideForm form, v⟩
      | _, v =>
          p.variant?.bind fun kind ↦
            if s = .ofString kind.label then some ⟨.fields (.variant kind), p.room, v⟩ else none
  | .index i =>
      match p.value with
      | .list items =>
          p.role.ofItem?.bind fun role ↦
            i.toNat?.bind fun i ↦ items[i]?.map fun v ↦ ⟨role, p.room, v⟩
      | _ => none

/-- The position to which a place leads. -/
def at? (p : Position) : List Step → Option Position
  | [] => some p
  | step :: place => (p.next? step).bind fun q ↦ q.at? place

/-- There is room for the descriptor. -/
def Fits (p : Position) (d : Descriptor) : Prop :=
  d.depth p.room.scope ≤ p.room.left

/-- There is room for the level. -/
def FitsLevel (p : Position) (level : Level Descriptor) : Prop :=
  Model.level.weight p.room.scope +
    Descriptor.depthOfArguments (Model.level.scope p.room.scope) level.arguments ≤ p.room.left

open Descriptor in
/-- The value stands for something that the role asks for and that there is room for. -/
def IsAcceptable (p : Position) : Prop :=
  match p.role with
  | .descriptor => ∃ d, Describes p.value d ∧ p.Fits d
  | .argument => ∃ d, DescribesArgument p.value d ∧ p.Fits d
  | .fields (.variant kind) => ∃ d, DescribesArgument p.value d ∧ d.variant = kind ∧ p.Fits d
  | .fields .level => ∃ level, DescribesLevel p.value level ∧ p.FitsLevel level
  | .levels =>
      ∃ items levels, p.value = .list items ∧ items ≠ [] ∧
        List.Forall₂ DescribesLevel items levels ∧ ∀ level ∈ levels, p.FitsLevel level
  | .arguments =>
      ∃ items arguments, p.value = .list items ∧
        List.Forall₂ DescribesArgument items arguments ∧ ∀ d ∈ arguments, p.Fits d
  | .segments => ∃ segments, IsNamespace p.value segments
  | .keyword => ∃ type : Primitive, p.value = text type.keyword
  | .name => ∃ s, p.value = text s
  | .rank => ∃ n, IsRank p.value n
  | .flag => ∃ b, StandsForFlag p.value b
  | .optionalFlag => ∃ flag, StandsForFlag? p.value flag
  | .tag => ∃ tag, IsTag p.value tag
  | .unread => True

/-- The fault is in the value itself and not in one of its parts. -/
def IsCulprit (p : Position) : Prop :=
  ∀ v, Document.SameOutline p.value v → ¬ IsAcceptable { p with value := v }

/-- The place of the detail leads to what the detail is about. -/
def Justifies (p : Position) (d : Detail) : Prop :=
  match d.fault with
  | .fieldMissing =>
      ∃ place form room entries, ∃ field ∈ form.fields, field.isRequired = true ∧
        d.place = place ++ [.name field.name] ∧
        p.at? place = some ⟨.fields form, room, .mapping entries⟩ ∧
        Scalar.text field.name ∉ entries.map Prod.fst
  | .fieldUnknown =>
      ∃ place form room entries key, d.place = place ++ [.name key] ∧
        p.at? place = some ⟨.fields form, room, .mapping entries⟩ ∧
        .text key ∈ entries.map Prod.fst ∧ ∀ name ∈ form.names, key ≠ .ofString name
  | .noLevel =>
      ∃ room items, p.at? d.place = some ⟨.levels, room, .list items⟩ ∧
        ∀ item ∈ items, ¬ IsAcceptable ⟨.fields .level, room, item⟩
  | _ => ∃ q, p.at? d.place = some q ∧ q.IsCulprit

/-- What holds of the position to which a step leads holds one step further on. -/
theorem Justifies.under {p q : Position} {step : Step} (leads : p.next? step = some q)
    {d : Detail} (h : q.Justifies d) : p.Justifies (d.under [step]) := by
  have onward : ∀ place, p.at? (step :: place) = q.at? place := by
    intro place
    rw [at?, leads, Option.bind_some]
  obtain ⟨place, fault⟩ := d
  rw [Justifies] at h ⊢
  cases fault with
  | fieldMissing =>
    obtain ⟨front, form, room, entries, field, isField, isRequired, rfl, found, absent⟩ := h
    exact ⟨step :: front, form, room, entries, field, isField, isRequired, rfl,
      (onward front).trans found, absent⟩
  | fieldUnknown =>
    obtain ⟨front, form, room, entries, key, rfl, found, present, undeclared⟩ := h
    exact ⟨step :: front, form, room, entries, key, rfl, (onward front).trans found, present,
      undeclared⟩
  | noLevel =>
    obtain ⟨room, items, found, refused⟩ := h
    exact ⟨room, items, (onward place).trans found, refused⟩
  | _ =>
    obtain ⟨r, found, isCulprit⟩ := h
    exact ⟨r, (onward place).trans found, isCulprit⟩

end Position
end TypeDisplay
