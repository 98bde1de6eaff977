import TypeDisplay.Proofs.Acceptance
import TypeDisplay.Proofs.CollectedDetails

/-!
# Documents within the depth

Validation reads a document in which a mark stands in place of every model that is too deep, and a
mark that is reached is reported.  So where no detail says that something is too deep, nothing that
validation looks at was replaced, and the details are those of the document itself.
-/

namespace TypeDisplay
namespace Descriptor

open Checked
open Document (Entry field? bounded boundedItems boundedEntries bounded_outline bounded_shown
  bounded_segments field?_boundedEntries)

/-- What is wrong with a document where something is expected. -/
def detailsAt (expected : Expected) (d : Document) : List Detail :=
  match expected with
  | .descriptor => (ofDocument d).details
  | .levels => (levelsOfDocument d).details
  | .level => (levelOfDocument d).details
  | .arguments => (argumentsOfDocument d).details
  | _ => []

/-- No part was passed over because it is too deep. -/
def AreExhaustive (details : List Detail) : Prop :=
  ∀ detail ∈ details, detail.fault ≠ .tooDeep

instance (details : List Detail) : Decidable (AreExhaustive details) :=
  inferInstanceAs (Decidable (∀ detail ∈ details, detail.fault ≠ .tooDeep))

@[simp] theorem areExhaustive_append_iff {details others : List Detail} :
    AreExhaustive (details ++ others) ↔ AreExhaustive details ∧ AreExhaustive others := by
  simp [AreExhaustive, or_imp, forall_and]

@[simp] theorem areExhaustive_map_under_iff {place : List Step} {details : List Detail} :
    AreExhaustive (details.map (Detail.under place)) ↔ AreExhaustive details := by
  simp [AreExhaustive, Detail.under]

/-- Wherever the document stands, nothing else is wrong with it when it is read within a room that
suffices. -/
def KeepsDetails (v : Document) : Prop :=
  ∀ expected room, AreExhaustive (detailsAt expected (bounded expected room v)) →
    detailsAt expected (bounded expected room v) = detailsAt expected v

theorem not_areExhaustive_level_cut (label : Option String) :
    ¬ AreExhaustive (detailsAt .level (.cut .depth label)) := by
  simp [AreExhaustive, detailsAt, levelOfDocument, fail, Fault.ofCutoff]

theorem not_areExhaustive_descriptor_cut (label : String) :
    ¬ AreExhaustive (detailsAt .descriptor (.cut .depth (some label))) := by
  simp [AreExhaustive, detailsAt, ofDocument, fail, Fault.ofCutoff, Detail.under]

/-! ### Entries -/

section entries

variable {α : Type} {model : Option Model} {room : Room} {entries : List Entry} {name : String}
  {absent : Checked α} {read : Document → Checked α}

theorem hasBrokenKey_boundedEntries :
    hasBrokenKey (boundedEntries model room entries) = hasBrokenKey entries := by
  induction entries with
  | nil => rfl
  | cons entry entries ih =>
    simp only [hasBrokenKey] at ih ⊢
    simp [boundedEntries, ih]

theorem unknownKeys_boundedEntries (known : List String) :
    unknownKeys known (boundedEntries model room entries) = unknownKeys known entries := by
  induction entries with
  | nil => rfl
  | cons entry entries ih =>
    simp only [unknownKeys] at ih ⊢
    simp [boundedEntries, List.filterMap_cons, ih]

/-- A field that holds no models is left as it is. -/
theorem plainField_boundedEntries (model : Model) (name : String)
    (isLeft : ∀ v, bounded (.under (some model) (.text (.ofString name))) room v = v) :
    plainField (boundedEntries (some model) room entries) name absent read =
      plainField entries name absent read := by
  rw [plainField, plainField, field?_boundedEntries]
  cases field? entries name with
  | none => rfl
  | some v => rw [Option.map_some, isLeft v]

theorem details_plainField_boundedEntries (expected : Expected)
    (isPlace : Expected.under model (.text (.ofString name)) = expected)
    (isRead : ∀ v, (read v).details = detailsAt expected v)
    (inner : ∀ v, field? entries name = some v → KeepsDetails v)
    (exhaustive :
      AreExhaustive (plainField (boundedEntries model room entries) name absent read).details) :
    (plainField (boundedEntries model room entries) name absent read).details =
      (plainField entries name absent read).details := by
  rw [plainField, plainField, field?_boundedEntries, isPlace] at *
  cases found : field? entries name with
  | none => rfl
  | some v =>
    simp only [found, Option.map_some, details_within, areExhaustive_map_under_iff,
      isRead] at exhaustive ⊢
    rw [inner v found expected room exhaustive]

end entries

/-! ### Mappings -/

section mappings

variable {entries : List Entry} {room : Room}

theorem details_ofEntries_bounded {kind : Kind} {model : Model}
    (isModel : Model.ofKind? kind = some model)
    (inner : ∀ name v, field? entries name = some v → KeepsDetails v)
    (exhaustive :
      AreExhaustive (ofEntries kind (boundedEntries (some model) room entries)).details) :
    (ofEntries kind (boundedEntries (some model) room entries)).details =
      (ofEntries kind entries).details := by
  cases kind with
  | named =>
    obtain rfl := Option.some.inj isModel
    rw [ofEntries_named, ofEntries_named,
      plainField_boundedEntries .named "namespace" (bounded_segments room),
      plainField_boundedEntries .named "value_type" (bounded_outline room),
      plainField_boundedEntries .named "well_known" (bounded_outline room)] at *
    simp only [details_provided, details_map, details_both, areExhaustive_append_iff,
      unknownKeys_boundedEntries] at exhaustive ⊢
    have levels := details_plainField_boundedEntries .levels rfl (fun _ ↦ rfl)
      (inner "levels") exhaustive.1.2.1
    rw [levels]
  | array =>
    obtain rfl := Option.some.inj isModel
    rw [ofEntries_array, ofEntries_array,
      plainField_boundedEntries .array "rank" (bounded_outline room),
      plainField_boundedEntries .array "multi_dimensional" (bounded_outline room)] at *
    simp only [details_provided, details_map, details_both, areExhaustive_append_iff,
      unknownKeys_boundedEntries] at exhaustive ⊢
    have element := details_plainField_boundedEntries .descriptor rfl (fun _ ↦ rfl)
      (inner "element_type") exhaustive.1.1
    rw [element]
  | pointer =>
    obtain rfl := Option.some.inj isModel
    rw [ofEntries_pointer, ofEntries_pointer] at *
    simp only [details_provided, details_map, areExhaustive_append_iff,
      unknownKeys_boundedEntries] at exhaustive ⊢
    have pointee := details_plainField_boundedEntries .descriptor rfl (fun _ ↦ rfl)
      (inner "pointee") exhaustive.1
    rw [pointee]
  | nullable =>
    obtain rfl := Option.some.inj isModel
    rw [ofEntries_nullable, ofEntries_nullable] at *
    simp only [details_provided, details_map, areExhaustive_append_iff,
      unknownKeys_boundedEntries] at exhaustive ⊢
    have underlying := details_plainField_boundedEntries .descriptor rfl
      (fun _ ↦ rfl) (inner "underlying") exhaustive.1
    rw [underlying]
  | _ => cases isModel

theorem details_level_bounded (inner : ∀ name v, field? entries name = some v → KeepsDetails v)
    (exhaustive : AreExhaustive
      (levelOfDocument (.mapping (boundedEntries (some .level) room entries))).details) :
    (levelOfDocument (.mapping (boundedEntries (some .level) room entries))).details =
      (levelOfDocument (.mapping entries)).details := by
  rw [details_levelOfDocument_mapping, details_levelOfDocument_mapping,
    hasBrokenKey_boundedEntries, unknownKeys_boundedEntries,
    plainField_boundedEntries .level "name" (bounded_outline room)] at *
  split
  · rfl
  · rename_i whole
    rw [if_neg whole, areExhaustive_append_iff, areExhaustive_append_iff] at exhaustive
    have arguments := details_plainField_boundedEntries .arguments rfl (fun _ ↦ rfl)
      (inner "type_arguments") exhaustive.1.2
    rw [arguments]

theorem details_model_bounded {kind : Kind} {model : Model}
    (label : Document.variant? (field? entries "kind") = some kind)
    (isModel : Model.ofKind? kind = some model)
    (inner : ∀ name v, field? entries name = some v → KeepsDetails v)
    (exhaustive : AreExhaustive
      (ofDocument (.mapping (boundedEntries (some model) room entries))).details) :
    (ofDocument (.mapping (boundedEntries (some model) room entries))).details =
      (ofDocument (.mapping entries)).details := by
  have isLeft : bounded (.under (some model) (.text (.ofString "kind"))) room = id := by
    funext v
    cases model with
    | level => exact bounded_outline room v
    | _ => exact bounded_shown room v
  have label' : Document.variant?
      (field? (boundedEntries (some model) room entries) "kind") = some kind := by
    rw [field?_boundedEntries, isLeft, Option.map_id, id, label]
  rw [details_ofDocument_mapping label', details_ofDocument_mapping label,
    hasBrokenKey_boundedEntries] at *
  split
  · rfl
  · rename_i whole
    rw [if_neg whole, areExhaustive_map_under_iff] at exhaustive
    rw [details_ofEntries_bounded isModel inner exhaustive]

theorem keepsDetails_mapping (inner : ∀ name v, field? entries name = some v → KeepsDetails v) :
    KeepsDetails (.mapping entries) := by
  intro expected room exhaustive
  cases expected with
  | descriptor =>
    cases isKind : Document.variant? (field? entries "kind") with
    | none => simp only [bounded, isKind]
    | some kind =>
      cases isModel : Model.ofKind? kind with
      | none =>
        by_cases holds : room.holdsLeaf = true
        · simp only [bounded, isKind, isModel, holds, if_true]
        · simp only [bounded, isKind, isModel, holds, if_false, Bool.false_eq_true] at exhaustive
          exact absurd exhaustive (not_areExhaustive_descriptor_cut _)
      | some model =>
        by_cases holds : room.holds model = true
        · simp only [bounded, isKind, isModel, holds, if_true] at exhaustive ⊢
          exact details_model_bounded isKind isModel inner exhaustive
        · simp only [bounded, isKind, isModel, holds, if_false, Bool.false_eq_true] at exhaustive
          exact absurd exhaustive (not_areExhaustive_descriptor_cut _)
  | level =>
    by_cases holds : room.holds .level = true
    · simp only [bounded, holds, if_true] at exhaustive ⊢
      exact details_level_bounded inner exhaustive
    · simp only [bounded, holds, if_false, Bool.false_eq_true] at exhaustive
      exact absurd exhaustive (not_areExhaustive_level_cut _)
  | _ => rfl

end mappings

/-! ### Lists -/

section lists

variable {items : List Document} {room : Room}

theorem details_levels_bounded (each : ∀ x ∈ items, KeepsDetails x) (index : Nat)
    (exhaustive : AreExhaustive (levelsOfItems index (boundedItems .level room items)).1) :
    (levelsOfItems index (boundedItems .level room items)).1 = (levelsOfItems index items).1 ∧
      (LacksLevels (boundedItems .level room items) ↔ LacksLevels items) := by
  induction items generalizing index with
  | nil => simp [boundedItems]
  | cons item items ih =>
    have isOther : Expected.level ≠ .descriptor := by decide
    rw [boundedItems_cons (.inl isOther), details_levelsOfItems_cons, areExhaustive_append_iff,
      areExhaustive_map_under_iff] at *
    have first : (levelOfDocument (bounded .level room item)).details =
        (levelOfDocument item).details := each item (by simp) .level room exhaustive.1
    obtain ⟨rest, lacks⟩ :=
      ih (fun x member ↦ each x (List.mem_cons_of_mem _ member)) (index + 1) exhaustive.2
    rw [details_levelsOfItems_cons, lacksLevels_cons_iff, lacksLevels_cons_iff, first, rest, lacks]
    exact ⟨rfl, Iff.rfl⟩

theorem details_arguments_bounded (each : ∀ x ∈ items, KeepsDetails x) (index : Nat)
    (exhaustive :
      AreExhaustive (argumentsOfItems index (boundedItems .descriptor room items)).details) :
    (argumentsOfItems index (boundedItems .descriptor room items)).details =
      (argumentsOfItems index items).details := by
  induction items generalizing index with
  | nil => simp [boundedItems]
  | cons item items ih =>
    have rest := ih (fun x member ↦ each x (List.mem_cons_of_mem _ member)) (index + 1)
    by_cases isText : ∃ name, item = Document.text name
    · obtain ⟨name, rfl⟩ := isText
      by_cases holds : room.holdsLeaf = true
      · have isLeft : boundedItems .descriptor room (Document.text name :: items) =
            Document.text name :: boundedItems .descriptor room items := by
          simp [Document.text, boundedItems, bounded, holds]
        rw [isLeft, Document.text, details_argumentsOfItems_text] at exhaustive
        rw [isLeft, Document.text, details_argumentsOfItems_text, details_argumentsOfItems_text,
          rest exhaustive]
      · have isCut : boundedItems .descriptor room (Document.text name :: items) =
            .cut .depth (some Kind.parameter.label) :: boundedItems .descriptor room items := by
          simp [Document.text, boundedItems, holds]
        rw [isCut, details_argumentsOfItems_cons (by simp), areExhaustive_append_iff,
          areExhaustive_map_under_iff] at exhaustive
        exact absurd exhaustive.1 (not_areExhaustive_descriptor_cut _)
    · have noText : ∀ name, item ≠ Document.text name := fun name same ↦ isText ⟨name, same⟩
      rw [boundedItems_cons (.inr noText),
        details_argumentsOfItems_cons (bounded_descriptor_ne_text noText room),
        details_argumentsOfItems_cons noText] at *
      rw [areExhaustive_append_iff, areExhaustive_map_under_iff] at exhaustive
      have first : (ofDocument (bounded .descriptor room item)).details =
          (ofDocument item).details := each item (by simp) .descriptor room exhaustive.1
      rw [first, rest exhaustive.2]

theorem keepsDetails_list (each : ∀ x ∈ items, KeepsDetails x) : KeepsDetails (.list items) := by
  intro expected room exhaustive
  cases expected with
  | levels =>
    simp only [bounded, detailsAt, details_levelsOfDocument_list,
      areExhaustive_append_iff] at exhaustive ⊢
    obtain ⟨same, lacks⟩ := details_levels_bounded each 0 exhaustive.1
    simp only [same, lacks]
  | arguments =>
    simp only [bounded, detailsAt, argumentsOfDocument] at exhaustive ⊢
    exact details_arguments_bounded each 0 exhaustive
  | level =>
    by_cases holds : room.holds .level = true
    · simp only [bounded, holds, if_true]
    · simp only [bounded, holds, if_false, Bool.false_eq_true] at exhaustive
      exact absurd exhaustive (not_areExhaustive_level_cut _)
  | _ => rfl

end lists

theorem keepsDetails_set (items : List Scalar) : KeepsDetails (.set items) := by
  intro expected room exhaustive
  by_cases holds : room.holds .level = true
  · cases expected <;> simp only [bounded, holds, if_true]
  · cases expected with
    | levels =>
      simp only [bounded, holds, if_false, Bool.false_eq_true] at exhaustive ⊢
      cases items with
      | nil => simp [detailsAt, levelsOfDocument, levelsOfItems, strayItems]
      | cons item items =>
        rw [detailsAt, List.map_cons, details_levelsOfDocument_list, details_levelsOfItems_cons,
          areExhaustive_append_iff, areExhaustive_append_iff,
          areExhaustive_map_under_iff] at exhaustive
        exact absurd exhaustive.1.1 (not_areExhaustive_level_cut none)
    | level =>
      simp only [bounded, holds, if_false, Bool.false_eq_true] at exhaustive
      exact absurd exhaustive (not_areExhaustive_level_cut _)
    | _ => rfl

theorem keepsDetails_of_level {v : Document}
    (isLeft : ∀ expected room, bounded expected room v = v ∨
      expected = .level ∧ bounded expected room v = .cut .depth none) : KeepsDetails v := by
  intro expected room exhaustive
  rcases isLeft expected room with same | ⟨rfl, isCut⟩
  · rw [same]
  · rw [isCut] at exhaustive
    exact absurd exhaustive (not_areExhaustive_level_cut none)

/-- Where nothing is reported to be too deep, the details are those of the document. -/
theorem keepsDetails (v : Document) : KeepsDetails v := by
  cases v with
  | mapping entries => exact keepsDetails_mapping fun name v found ↦ keepsDetails v
  | list items => exact keepsDetails_list fun x member ↦ keepsDetails x
  | set items => exact keepsDetails_set items
  | cut cutoff label => exact keepsDetails_of_level fun _ _ ↦ .inl (by rw [bounded])
  | scalar _ | pair _ _ | elided _ =>
    refine keepsDetails_of_level fun expected room ↦ ?_
    by_cases isCut : expected = .level ∧ !room.holds .level
    · exact .inr ⟨isCut.1, by simp only [bounded, isCut, and_self, if_true]⟩
    · exact .inl (by simp only [bounded, isCut, if_false])
termination_by sizeOf v
decreasing_by
  · have smaller := List.sizeOf_lt_of_mem member
    simp only [Document.list.sizeOf_spec]
    omega
  · have smaller := Document.sizeOf_field?_lt found
    simp only [Document.mapping.sizeOf_spec]
    omega

theorem details_validate {v : Document} (exhaustive : AreExhaustive (validate v).details) :
    (validate v).details = (ofDocument v).details :=
  keepsDetails v .descriptor .whole exhaustive

end Descriptor
end TypeDisplay
