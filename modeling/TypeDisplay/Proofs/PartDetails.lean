import TypeDisplay.Proofs.Position

/-!
# Details of parts

What is wrong with a value in its role is what is wrong with its parts in theirs, each part below
the step that leads to it.  Fields come first, in the order in which they are declared, and unknown
keys after them.  Items come in the order of the list.
-/

namespace TypeDisplay

open Checked
open Descriptor
open Document (Entry field? text bounded boundedItems boundedEntries bounded_outline bounded_shown
  field?_boundedEntries)

namespace Descriptor

/-- Reads a type argument in a room. -/
def argumentOf (room : Room) : Document → Checked Descriptor
  | .scalar (.text name) =>
      if room.holdsLeaf then .ok (parameter name)
      else (fail .tooDeep).within (.name Kind.parameter.label)
  | v => ofDocument (v.bounded .descriptor room)

theorem argumentOf_of_ne_text {v : Document} (noText : ∀ name, v ≠ text name) (room : Room) :
    argumentOf room v = ofDocument (v.bounded .descriptor room) := by
  rw [argumentOf]
  exact noText

theorem argumentsOfItems_boundedItems_cons (room : Room) (index : Nat) (item : Document)
    (items : List Document) :
    argumentsOfItems index (boundedItems .descriptor room (item :: items)) =
      (both ((argumentOf room item).within (.index index))
        (argumentsOfItems (index + 1) (boundedItems .descriptor room items))).map
          fun (a, as) ↦ a :: as := by
  by_cases isText : ∃ name, item = text name
  · obtain ⟨name, rfl⟩ := isText
    by_cases holds : room.holdsLeaf = true
    · simp [text, boundedItems, bounded, holds, argumentsOfItems, argumentOf, within]
    · simp [text, boundedItems, holds, argumentsOfItems, argumentOf, ofDocument, Fault.ofCutoff]
  · have noText : ∀ name, item ≠ text name := fun name same ↦ isText ⟨name, same⟩
    rw [boundedItems_cons (.inr noText), argumentsOfItems, argumentOf_of_ne_text noText]
    exact bounded_descriptor_ne_text noText room

theorem boundedItems_level (room : Room) (items : List Document) :
    boundedItems .level room items = items.map (bounded .level room) := by
  induction items with
  | nil => rfl
  | cons item items ih =>
    have isOther : Expected.level ≠ .descriptor := by decide
    rw [boundedItems_cons (.inl isOther), ih, List.map_cons]

end Descriptor

/-! ### Items -/

/-- The details of the items of a list, each below its index. -/
def itemDetails (read : Document → List Detail) (index : Nat) (items : List Document) :
    List Detail :=
  (items.zipIdx index).flatMap fun item ↦ (read item.1).map (Detail.under [.index item.2])

theorem itemDetails_cons (read : Document → List Detail) (index : Nat) (item : Document)
    (items : List Document) :
    itemDetails read index (item :: items) =
      (read item).map (Detail.under [.index index]) ++ itemDetails read (index + 1) items := by
  simp [itemDetails]

theorem details_argumentsOfItems (room : Room) (index : Nat) (items : List Document) :
    (argumentsOfItems index (boundedItems .descriptor room items)).details =
      itemDetails (fun x ↦ (argumentOf room x).details) index items := by
  induction items generalizing index with
  | nil => simp [boundedItems, argumentsOfItems, itemDetails]
  | cons item items ih =>
    rw [argumentsOfItems_boundedItems_cons, details_map, details_both, details_within, ih,
      itemDetails_cons]

theorem details_levelsOfItems (room : Room) (index : Nat) (items : List Document) :
    (levelsOfItems index (items.map (bounded .level room))).1 =
      itemDetails (fun x ↦ (levelOfDocument (bounded .level room x)).details) index items := by
  induction items generalizing index with
  | nil => simp [levelsOfItems, itemDetails]
  | cons item items ih =>
    rw [List.map_cons, details_levelsOfItems_cons, ih, itemDetails_cons]

theorem details_texts (index : Nat) (items : List Document) :
    (Conversion.texts index items).details =
      itemDetails (fun x ↦ (Conversion.text x).details) index items := by
  induction items generalizing index with
  | nil => simp [Conversion.texts, itemDetails]
  | cons item items ih =>
    rw [itemDetails_cons, ← ih, ← details_within, ← details_both, Conversion.texts]
    split
    · rename_i both
      rw [both]
      rfl
    · rename_i both
      rw [both]
      rfl

/-! ### Fields -/

/-- What is wrong with a value in a role, once marks stand in place of what is too deep. -/
def Role.details : Role → Document → List Detail
  | .descriptor, v | .argument, v => (ofDocument v).details
  | .fields (.variant kind), .mapping entries =>
      if hasBrokenKey entries then (fail .textUndecodable : Checked Descriptor).details
      else (ofEntries kind entries).details
  | .fields (.variant _), .cut cutoff _ => (fail (.ofCutoff cutoff) : Checked Descriptor).details
  | .fields (.variant _), _ => []
  | .fields .level, v => (levelOfDocument v).details
  | .levels, v => (levelsOfDocument v).details
  | .arguments, v => (argumentsOfDocument v).details
  | .segments, v => (Conversion.segments v).details
  | .keyword, v => (Conversion.primitive v).details
  | .name, v => (Conversion.text v).details
  | .rank, v => (Conversion.rank v).details
  | .flag, v => (Conversion.flag v).details
  | .optionalFlag, v => (Conversion.flag? v).details
  | .tag, v => (Conversion.wellKnown? v).details
  | .unread, _ => []

/-- What is wrong with the value of a field, or the lack of the field. -/
def Field.details (field : Field) (read : Document → List Detail) (entries : List Entry) :
    List Detail :=
  match field? entries field.name with
  | some v => (read v).map (Detail.under [.name field.name])
  | none => if field.isRequired then [⟨[.name field.name], .fieldMissing⟩] else []

section fields

variable {α : Type} (entries : List Entry) (name : String) (role : Role)
  (read : Document → Checked α)

theorem details_requiredField (isRead : ∀ v, (read v).details = role.details v) :
    (plainField entries name (missing name) read).details =
      Field.details ⟨name, role, true⟩ role.details entries := by
  rw [plainField, Field.details]
  cases field? entries name with
  | none => rfl
  | some v => rw [details_within, isRead]

theorem details_optionalField (absent : α) (isRead : ∀ v, (read v).details = role.details v) :
    (plainField entries name (.ok absent) read).details =
      Field.details ⟨name, role, false⟩ role.details entries := by
  rw [plainField, Field.details]
  cases field? entries name with
  | none => rfl
  | some v => rw [details_within, isRead]

end fields

/-- The details of the fields of a form and of the keys that it does not declare. -/
def Form.details (form : Form) (read : Role → Document → List Detail) (entries : List Entry) :
    List Detail :=
  (form.fields.flatMap fun field ↦ field.details (read field.role) entries) ++
    unknownKeys form.names entries

theorem details_ofEntries (kind : Kind) (entries : List Entry) :
    (ofEntries kind entries).details = (Form.variant kind).details Role.details entries := by
  have required := fun {α} name role read isRead ↦
    @details_requiredField α entries name role read isRead
  have optional := fun {α} name role read absent isRead ↦
    @details_optionalField α entries name role read absent isRead
  cases kind with
  | primitive =>
    rw [ofEntries, details_provided, details_map,
      required "primitive" .keyword Conversion.primitive fun _ ↦ rfl]
    simp [Form.details, Form.fields, Form.names]
  | void =>
    rw [ofEntries, details_provided, details_ok]
    rfl
  | parameter =>
    rw [ofEntries, details_provided, details_map,
      required "name" .name Conversion.text fun _ ↦ rfl]
    simp [Form.details, Form.fields, Form.names]
  | named =>
    rw [ofEntries_named, details_provided, details_map, details_both, details_both, details_both,
      optional "namespace" .segments Conversion.segments [] fun _ ↦ rfl,
      required "levels" .levels levelsOfDocument fun _ ↦ rfl,
      optional "value_type" .optionalFlag Conversion.flag? none fun _ ↦ rfl,
      optional "well_known" .tag Conversion.wellKnown? none fun _ ↦ rfl]
    simp [Form.details, Form.fields, Form.names]
  | array =>
    rw [ofEntries_array, details_provided, details_map, details_both, details_both,
      required "element_type" .descriptor ofDocument fun _ ↦ rfl,
      optional "rank" .rank Conversion.rank 1 fun _ ↦ rfl,
      optional "multi_dimensional" .flag Conversion.flag false fun _ ↦ rfl]
    simp [Form.details, Form.fields, Form.names]
  | pointer =>
    rw [ofEntries_pointer, details_provided, details_map,
      required "pointee" .descriptor ofDocument fun _ ↦ rfl]
    simp [Form.details, Form.fields, Form.names]
  | nullable =>
    rw [ofEntries_nullable, details_provided, details_map,
      required "underlying" .descriptor ofDocument fun _ ↦ rfl]
    simp [Form.details, Form.fields, Form.names]

theorem details_levelOfEntries (entries : List Entry) :
    (levelOfDocument (.mapping entries)).details =
      if hasBrokenKey entries then (fail .textUndecodable : Checked Descriptor).details
      else Form.level.details Role.details entries := by
  rw [details_levelOfDocument_mapping,
    details_requiredField entries "name" .name Conversion.text fun _ ↦ rfl,
    details_optionalField entries "type_arguments" .arguments argumentsOfDocument [] fun _ ↦ rfl]
  simp [Form.details, Form.fields, Form.names]

/-! ### Positions -/

namespace Position

/-- What is wrong with the value of a position. -/
def details (p : Position) : List Detail :=
  match p.role with
  | .argument => (argumentOf p.room p.value).details
  | role => role.details (p.value.bounded role.expected p.room)

theorem details_eq {role : Role} (notArgument : role ≠ .argument) (room : Room) (v : Document) :
    details ⟨role, room, v⟩ = role.details (v.bounded role.expected room) := by
  cases role with
  | argument => exact absurd rfl notArgument
  | _ => rfl

end Position

/-- There is room for a model of the form. -/
def Room.holdsForm (room : Room) (form : Form) : Bool :=
  match form.model? with
  | some model => room.holds model
  | none => room.holdsLeaf

theorem Form.role_ne_argument {form : Form} {field : Field} (isField : field ∈ form.fields) :
    field.role ≠ .argument := by
  revert field
  rcases form with (_ | _ | _ | _ | _ | _ | _) | _ <;> decide

/-- What is wrong with the parts of a mapping that is read as a model. -/
def Form.partDetails (form : Form) (room : Room) (entries : List Entry) : List Detail :=
  (form.fields.flatMap fun field ↦
    field.details (fun v ↦ Position.details ⟨field.role, room.insideForm form, v⟩) entries) ++
      unknownKeys form.names entries

section forms

variable {form : Form} {field : Field} (isField : field ∈ form.fields)

include isField

theorem details_field_bounded {model : Model} (isModel : form.model? = some model) (room : Room)
    (entries : List Entry) :
    field.details field.role.details (boundedEntries (some model) (room.inside model) entries) =
      field.details (fun v ↦ Position.details ⟨field.role, room.insideForm form, v⟩) entries := by
  rw [Field.details, Field.details, field?_boundedEntries, Form.under_name isModel isField]
  cases field? entries field.name with
  | none => rfl
  | some v =>
    simp only [Option.map_some, Position.details_eq (Form.role_ne_argument isField),
      Room.insideForm, isModel]

theorem details_field_of_leaf (isLeaf : form.model? = none) (room : Room)
    (entries : List Entry) :
    field.details field.role.details entries =
      field.details (fun v ↦ Position.details ⟨field.role, room.insideForm form, v⟩) entries := by
  rw [Field.details, Field.details]
  cases field? entries field.name with
  | none => rfl
  | some v =>
    simp only [Position.details_eq (Form.role_ne_argument isField),
      Form.expected_of_leaf isLeaf isField, bounded_outline]

end forms

theorem Form.details_bounded {form : Form} {model : Model} (isModel : form.model? = some model)
    (room : Room) (entries : List Entry) :
    form.details Role.details (boundedEntries (some model) (room.inside model) entries) =
      form.partDetails room entries := by
  rw [Form.details, Form.partDetails, unknownKeys_boundedEntries, List.flatMap_congr]
  exact fun field isField ↦ details_field_bounded isField isModel room entries

theorem Form.details_of_leaf {form : Form} (isLeaf : form.model? = none) (room : Room)
    (entries : List Entry) :
    form.details Role.details entries = form.partDetails room entries := by
  rw [Form.details, Form.partDetails, List.flatMap_congr]
  exact fun field isField ↦ details_field_of_leaf isField isLeaf room entries

namespace Position

section mappings

variable {entries : List Entry} {room : Room}

/-- A model for which there is no room is not read, nor is one with a broken key. -/
theorem details_fields {form : Form}
    (label : ∀ kind, form = .variant kind →
      Document.variant? (field? entries "kind") = some kind) :
    details ⟨.fields form, room, .mapping entries⟩ =
      if room.holdsForm form then
        if hasBrokenKey entries then [⟨[], .textUndecodable⟩] else form.partDetails room entries
      else [⟨[], .tooDeep⟩] := by
  cases form with
  | level =>
    have isModel : Form.level.model? = some .level := rfl
    rw [Room.holdsForm, isModel]
    by_cases holds : room.holds .level = true
    · rw [← Form.details_bounded isModel]
      simp only [details, Role.details, Role.expected, bounded, holds, if_true,
        details_levelOfEntries, hasBrokenKey_boundedEntries]
      rfl
    · simp only [details, Role.details, Role.expected, bounded, holds, if_false, Bool.false_eq_true]
      simp [levelOfDocument, fail, Fault.ofCutoff]
  | variant kind =>
    have isKind := label kind rfl
    rw [Room.holdsForm]
    cases isModel : Form.model? (.variant kind) with
    | none =>
      have isLeaf : Model.ofKind? kind = none := isModel
      by_cases holds : room.holdsLeaf = true
      · rw [← Form.details_of_leaf isModel]
        simp only [details, Role.details, Role.expected, bounded, isKind, isLeaf, holds, if_true,
          details_ofEntries]
        rfl
      · simp only [details, Role.details, Role.expected, bounded, isKind, isLeaf, holds, if_false,
          Bool.false_eq_true]
        rfl
    | some model =>
      have isModel' : Model.ofKind? kind = some model := isModel
      by_cases holds : room.holds model = true
      · rw [← Form.details_bounded isModel]
        simp only [details, Role.details, Role.expected, bounded, isKind, isModel', holds, if_true,
          details_ofEntries, hasBrokenKey_boundedEntries]
        rfl
      · simp only [details, Role.details, Role.expected, bounded, isKind, isModel', holds, if_false,
          Bool.false_eq_true]
        rfl

/-- The kind is left as it is. -/
theorem variant?_bounded {kind : Kind} {model : Model}
    (label : Document.variant? (field? entries "kind") = some kind) (isModel : model ≠ .level) :
    Document.variant? (field? (boundedEntries (some model) room entries) "kind") = some kind := by
  have isLeft : ∀ v, bounded (.under (some model) (.text (.ofString "kind"))) room v = v := by
    intro v
    cases model with
    | level => exact absurd rfl isModel
    | _ => exact bounded_shown room v
  rw [field?_boundedEntries, funext isLeft, Option.map_id']
  exact label

/-- The details of a recognised variant come below its label. -/
theorem details_descriptor {kind : Kind}
    (label : Document.variant? (field? entries "kind") = some kind) :
    details ⟨.descriptor, room, .mapping entries⟩ =
      (details ⟨.fields (.variant kind), room, .mapping entries⟩).map
        (Detail.under [.name kind.label]) := by
  have ofMapping : ∀ others : List Entry,
      Document.variant? (field? others "kind") = some kind →
        (ofDocument (.mapping others)).details =
          (Role.details (.fields (.variant kind)) (.mapping others)).map
            (Detail.under [.name kind.label]) :=
    fun others label ↦ details_ofDocument_mapping label
  have ofCut : (ofDocument (.cut .depth (some kind.label))).details =
      (Role.details (.fields (.variant kind)) (.cut .depth (some kind.label))).map
        (Detail.under [.name kind.label]) := by
    simp [ofDocument, Role.details]
  simp only [details, Role.expected, bounded, label]
  cases isModel : Model.ofKind? kind with
  | none =>
    simp only
    split
    · exact ofMapping entries label
    · exact ofCut
  | some model =>
    have notLevel : model ≠ .level := by
      rintro rfl
      cases kind <;> cases isModel
    simp only
    split
    · exact ofMapping _ (variant?_bounded label notLevel)
    · exact ofCut

theorem details_descriptor_of_unknown (room : Room)
    (unknown : Document.variant? (field? entries "kind") = none) :
    ∃ fault, details ⟨.descriptor, room, .mapping entries⟩ = [⟨[], fault⟩] ∧
      (fault = .kindMissing ∨ ∃ shown, fault = .kindUnknown shown) := by
  simp only [details, Role.expected, Role.details, bounded, unknown]
  rw [ofDocument]
  cases found : field? entries "kind" with
  | none => exact ⟨_, rfl, .inl rfl⟩
  | some label =>
    rw [found] at unknown
    simp only [unknown]
    exact ⟨_, rfl, .inr ⟨_, rfl⟩⟩

theorem details_argument_of_ne_text {v : Document} (noText : ∀ name, v ≠ text name) :
    details ⟨.argument, room, v⟩ = details ⟨.descriptor, room, v⟩ := by
  rw [details, argumentOf_of_ne_text noText]
  rfl

end mappings

end Position

end TypeDisplay
