import TypeDisplay.Proofs.AcceptedFields

/-!
# Accepted models

A mapping in a JSON document is read as a descriptor or as a level exactly when it describes this,
provided that the same holds for the values of its fields and that there is room for the mapping.

The models around a place are counted while the document is read, but they are those around the same
place of the descriptor.  So what is left of the room is the same on both sides.
-/

namespace TypeDisplay

theorem Room.le_left_inside_iff {room : Room} {model : Model} (holds : room.holds model = true)
    {n : Nat} : n ≤ (room.inside model).left ↔ model.weight room.scope + n ≤ room.left := by
  simp only [Room.holds, decide_eq_true_eq] at holds
  simp only [Room.inside]
  omega

namespace Document

@[simp] theorem bounded_outline (room : Room) (v : Document) : bounded .outline room v = v := by
  cases v <;> simp [bounded]

@[simp] theorem bounded_shown (room : Room) (v : Document) : bounded .shown room v = v := by
  cases v <;> simp [bounded]

@[simp] theorem bounded_segments (room : Room) (v : Document) : bounded .segments room v = v := by
  cases v <;> simp [bounded]

section entries

variable {model : Option Model} {room : Room} {entries : List Entry} {name : String}

theorem field?_boundedEntries :
    field? (boundedEntries model room entries) name =
      (field? entries name).map (bounded (.under model (.text (.ofString name))) room) := by
  induction entries with
  | nil => rfl
  | cons entry entries ih =>
    obtain ⟨key, value⟩ := entry
    simp only [field?] at ih ⊢
    by_cases isKey : key = .text (.ofString name)
    · simp [boundedEntries, isKey]
    · simp [boundedEntries, isKey, ih]

theorem exists_field?_boundedEntries {P : Document → Prop} :
    (∃ v, field? (boundedEntries model room entries) name = some v ∧ P v) ↔
      ∃ v, field? entries name = some v ∧
        P (bounded (.under model (.text (.ofString name))) room v) := by
  simp [field?_boundedEntries]

theorem IsJson.of_field? (json : IsJson (.mapping entries)) {v : Document}
    (found : field? entries name = some v) : IsJson v := by
  cases json with
  | mapping _ each => exact each _ (field?_mem found)

end entries
end Document

namespace Descriptor

open Document (Entry field? text IsJson bounded boundedEntries boundedItems bounded_outline
  bounded_segments field?_boundedEntries exists_field?_boundedEntries)

section

variable {model : Option Model} {room : Room} {entries : List Entry} {name : String}

theorem hasOnly_boundedEntries {names : List String} :
    HasOnly names (boundedEntries model room entries) ↔ HasOnly names entries := by
  induction entries with
  | nil => rfl
  | cons entry entries ih =>
    rw [boundedEntries, HasOnly, List.forall_mem_cons, HasOnly, List.forall_mem_cons]
    exact and_congr_right fun _ ↦ ih

theorem isModel_boundedEntries {kind : Kind} :
    IsModel kind (boundedEntries model room entries) ↔ IsModel kind entries := by
  have label : ∀ v, bounded (.under model (.text (.ofString "kind"))) room v = v := by
    intro v
    rcases model with _ | _ | _ | _ | _ | _ <;>
      simp [Expected.under, Scalar.string?, Text.string?_ofString]
  simp [IsModel, hasOnly_boundedEntries, field?_boundedEntries, label]

theorem HasField.congr {α : Type} {absent a : α} {stands stands' : Document → α → Prop}
    (same : ∀ v, field? entries name = some v → (stands v a ↔ stands' v a)) :
    HasField entries name absent stands a ↔ HasField entries name absent stands' a := by
  rw [HasField, HasField]
  refine or_congr_right (exists_congr fun v ↦ and_congr_right ?_)
  exact same v

theorem hasField_boundedEntries {α : Type} {absent a : α} {stands : Document → α → Prop} :
    HasField (boundedEntries model room entries) name absent stands a ↔
      HasField entries name absent
        (fun v b ↦ stands (bounded (.under model (.text (.ofString name))) room v) b) a := by
  simp [HasField, field?_boundedEntries]

end

/-- Reading a document at a place and describing it at this place agree, whatever room is left.
Levels and arguments only stand below other models. -/
structure Agrees (v : Document) : Prop where
  descriptor (room : Room) (d : Descriptor) :
    ofDocument (v.bounded .descriptor room) = .ok d ↔
      Describes v d ∧ d.depth room.scope ≤ room.left
  level (scope : Model) (left : Nat) (level : Level Descriptor) :
    levelOfDocument (v.bounded .level ⟨some scope, left⟩) = .ok level ↔
      DescribesLevel v level ∧ depthOfLevel scope level ≤ left
  levels (scope : Model) (left : Nat) (levels : List (Level Descriptor)) :
    levelsOfDocument (v.bounded .levels ⟨some scope, left⟩) = .ok levels ↔
      (∃ items, v = .list items ∧ items ≠ [] ∧ List.Forall₂ DescribesLevel items levels) ∧
        depthOfLevels scope levels ≤ left
  arguments (scope : Model) (left : Nat) (arguments : List Descriptor) :
    argumentsOfDocument (v.bounded .arguments ⟨some scope, left⟩) = .ok arguments ↔
      (∃ items, v = .list items ∧ List.Forall₂ DescribesArgument items arguments) ∧
        depthOfArguments scope arguments ≤ left

open Checked

theorem depth_of_leaf {d : Descriptor} (isLeaf : Model.ofKind? d.variant = none)
    (scope : Option Model) : d.depth scope = Model.leafWeight := by
  cases d with
  | primitive _ | void | parameter _ => rw [depth]
  | _ => cases isLeaf

theorem weight_le_depth {d : Descriptor} {model : Model}
    (isModel : Model.ofKind? d.variant = some model) (scope : Option Model) :
    model.weight scope ≤ d.depth scope := by
  cases d with
  | primitive _ | void | parameter _ => cases isModel
  | _ =>
    obtain rfl := Option.some.inj isModel
    rw [depth]
    omega

theorem Describes.exists_isModel {v : Document} {d : Descriptor} (h : Describes v d) :
    ∃ entries, v = .mapping entries ∧ IsModel d.variant entries := by
  cases h with
  | primitive model | void model | parameter model | named model | array model | pointer model
  | nullable model => exact ⟨_, rfl, model⟩

/-! ### Descriptors -/

section descriptors

variable {entries : List Entry} (json : IsJson (.mapping entries))

include json

theorem ofDocument_leaf_eq_ok_iff {d : Descriptor} (isLeaf : Model.ofKind? d.variant = none) :
    ofDocument (.mapping entries) = .ok d ↔ Describes (.mapping entries) d := by
  rw [ofDocument_mapping_eq_ok_iff]
  constructor
  · rintro ⟨model, fields⟩
    cases d with
    | primitive type =>
      obtain ⟨v, found, isType⟩ := fields
      obtain rfl := (primitive_eq_ok_iff (json.of_field? found)).1 isType
      exact .primitive model found
    | void => exact .void model
    | parameter name =>
      obtain ⟨v, found, isName⟩ := fields
      obtain rfl := (text_eq_ok_iff (json.of_field? found)).1 isName
      exact .parameter model found
    | _ => cases isLeaf
  · intro h
    cases h with
    | primitive model found =>
      exact ⟨model, _, found, (primitive_eq_ok_iff (json.of_field? found)).2 rfl⟩
    | void model => exact ⟨model, trivial⟩
    | parameter model found =>
      exact ⟨model, _, found, (text_eq_ok_iff (json.of_field? found)).2 rfl⟩
    | _ => cases isLeaf

variable (each : ∀ name v, field? entries name = some v → Agrees v) {room : Room}

include each

theorem ofDocument_array_eq_ok_iff {element : Descriptor} {rank : Int} {multiDimensional : Bool}
    (holds : room.holds .array = true) :
    ofDocument (.mapping (boundedEntries (some .array) (room.inside .array) entries)) =
        .ok (array element rank multiDimensional) ↔
      Describes (.mapping entries) (array element rank multiDimensional) ∧
        (array element rank multiDimensional).depth room.scope ≤ room.left := by
  have underElement :
      Expected.under (some .array) (.text (.ofString "element_type")) = .descriptor := rfl
  have underRank : Expected.under (some .array) (.text (.ofString "rank")) = .outline := rfl
  have underFlag :
      Expected.under (some .array) (.text (.ofString "multi_dimensional")) = .outline := rfl
  have rankIff : HasField entries "rank" 1 (fun v n ↦ Conversion.rank v = .ok n) rank ↔
      HasField entries "rank" 1 IsRank rank :=
    HasField.congr fun v found ↦ rank_eq_ok_iff (json.of_field? found)
  have flagIff :
      HasField entries "multi_dimensional" false (fun v b ↦ Conversion.flag v = .ok b)
          multiDimensional ↔
        HasField entries "multi_dimensional" false StandsForFlag multiDimensional :=
    HasField.congr fun v found ↦ flag_eq_ok_iff (json.of_field? found)
  rw [ofDocument_mapping_eq_ok_iff, isModel_boundedEntries, HasFields, depth,
    ← Room.le_left_inside_iff holds]
  simp only [exists_field?_boundedEntries, hasField_boundedEntries, underElement,
    underRank, underFlag,
    bounded_outline, rankIff, flagIff]
  constructor
  · rintro ⟨model, ⟨v, found, isElement⟩, isRank, isFlag⟩
    obtain ⟨describes, fits⟩ := ((each _ v found).descriptor _ _).1 isElement
    exact ⟨.array model found describes isRank isFlag, fits⟩
  · rintro ⟨h, fits⟩
    cases h with
    | array model found describes isRank isFlag =>
      have isElement := ((each _ _ found).descriptor (room.inside .array) _).2 ⟨describes, fits⟩
      exact ⟨model, ⟨_, found, isElement⟩, isRank, isFlag⟩

theorem ofDocument_named_eq_ok_iff {segments : List Text} {levels : List (Level Descriptor)}
    {valueType : Option Bool} {wellKnown : Option WellKnown} (holds : room.holds .named = true) :
    ofDocument (.mapping (boundedEntries (some .named) (room.inside .named) entries)) =
        .ok (named segments levels valueType wellKnown) ↔
      Describes (.mapping entries) (named segments levels valueType wellKnown) ∧
        (named segments levels valueType wellKnown).depth room.scope ≤ room.left := by
  have underSegments :
      Expected.under (some .named) (.text (.ofString "namespace")) = .segments := rfl
  have underLevels : Expected.under (some .named) (.text (.ofString "levels")) = .levels := rfl
  have underFlag : Expected.under (some .named) (.text (.ofString "value_type")) = .outline := rfl
  have underTag : Expected.under (some .named) (.text (.ofString "well_known")) = .outline := rfl
  have segmentsIff :
      HasField entries "namespace" [] (fun v s ↦ Conversion.segments v = .ok s) segments ↔
        HasField entries "namespace" [] IsNamespace segments :=
    HasField.congr fun v found ↦ segments_eq_ok_iff (json.of_field? found)
  have flagIff :
      HasField entries "value_type" none (fun v f ↦ Conversion.flag? v = .ok f) valueType ↔
        HasField entries "value_type" none StandsForFlag? valueType :=
    HasField.congr fun v found ↦ flag?_eq_ok_iff (json.of_field? found)
  have tagIff :
      HasField entries "well_known" none (fun v w ↦ Conversion.wellKnown? v = .ok w) wellKnown ↔
        HasField entries "well_known" none IsTag wellKnown :=
    HasField.congr fun v found ↦ wellKnown?_eq_ok_iff (json.of_field? found)
  rw [ofDocument_mapping_eq_ok_iff, isModel_boundedEntries, HasFields, depth,
    ← Room.le_left_inside_iff holds]
  simp only [exists_field?_boundedEntries, hasField_boundedEntries, underSegments,
    underLevels, underFlag, underTag,
    bounded_outline, bounded_segments, segmentsIff, flagIff, tagIff]
  constructor
  · rintro ⟨model, areSegments, ⟨v, found, areRead⟩, isFlag, isTag⟩
    obtain ⟨⟨items, rfl, nonempty, areLevels⟩, fits⟩ := ((each _ v found).levels _ _ _).1 areRead
    exact ⟨.named model areSegments found nonempty areLevels isFlag isTag, fits⟩
  · rintro ⟨h, fits⟩
    cases h with
    | named model areSegments found nonempty areLevels isFlag isTag =>
      have areRead := ((each _ _ found).levels _ _ _).2 ⟨⟨_, rfl, nonempty, areLevels⟩, fits⟩
      exact ⟨model, areSegments, ⟨_, found, areRead⟩, isFlag, isTag⟩

omit json

theorem ofDocument_pointer_eq_ok_iff {pointee : Descriptor} (holds : room.holds .pointer = true) :
    ofDocument (.mapping (boundedEntries (some .pointer) (room.inside .pointer) entries)) =
        .ok (pointer pointee) ↔
      Describes (.mapping entries) (pointer pointee) ∧
        (pointer pointee).depth room.scope ≤ room.left := by
  have underPointee :
      Expected.under (some .pointer) (.text (.ofString "pointee")) = .descriptor := rfl
  rw [ofDocument_mapping_eq_ok_iff, isModel_boundedEntries, HasFields, depth,
    ← Room.le_left_inside_iff holds]
  simp only [exists_field?_boundedEntries, underPointee]
  constructor
  · rintro ⟨model, v, found, isPointee⟩
    obtain ⟨describes, fits⟩ := ((each _ v found).descriptor _ _).1 isPointee
    exact ⟨.pointer model found describes, fits⟩
  · rintro ⟨h, fits⟩
    cases h with
    | pointer model found describes =>
      have isPointee := ((each _ _ found).descriptor (room.inside .pointer) _).2 ⟨describes, fits⟩
      exact ⟨model, _, found, isPointee⟩

theorem ofDocument_nullable_eq_ok_iff {underlying : Descriptor}
    (holds : room.holds .nullable = true) :
    ofDocument (.mapping (boundedEntries (some .nullable) (room.inside .nullable) entries)) =
        .ok (nullable underlying) ↔
      Describes (.mapping entries) (nullable underlying) ∧
        (nullable underlying).depth room.scope ≤ room.left := by
  have underUnderlying :
      Expected.under (some .nullable) (.text (.ofString "underlying")) = .descriptor := rfl
  rw [ofDocument_mapping_eq_ok_iff, isModel_boundedEntries, HasFields, depth,
    ← Room.le_left_inside_iff holds]
  simp only [exists_field?_boundedEntries, underUnderlying]
  constructor
  · rintro ⟨model, v, found, isUnderlying⟩
    obtain ⟨describes, fits⟩ := ((each _ v found).descriptor _ _).1 isUnderlying
    exact ⟨.nullable model found describes, fits⟩
  · rintro ⟨h, fits⟩
    cases h with
    | nullable model found describes =>
      have isUnderlying :=
        ((each _ _ found).descriptor (room.inside .nullable) _).2 ⟨describes, fits⟩
      exact ⟨model, _, found, isUnderlying⟩

include json

theorem ofDocument_model_eq_ok_iff {d : Descriptor} {model : Model}
    (isModel : Model.ofKind? d.variant = some model) (holds : room.holds model = true) :
    ofDocument (.mapping (boundedEntries (some model) (room.inside model) entries)) = .ok d ↔
      Describes (.mapping entries) d ∧ d.depth room.scope ≤ room.left := by
  cases d with
  | primitive _ | void | parameter _ => cases isModel
  | named segments levels valueType wellKnown =>
    obtain rfl := Option.some.inj isModel
    exact ofDocument_named_eq_ok_iff json each holds
  | array element rank multiDimensional =>
    obtain rfl := Option.some.inj isModel
    exact ofDocument_array_eq_ok_iff json each holds
  | pointer pointee =>
    obtain rfl := Option.some.inj isModel
    exact ofDocument_pointer_eq_ok_iff each holds
  | nullable underlying =>
    obtain rfl := Option.some.inj isModel
    exact ofDocument_nullable_eq_ok_iff each holds

end descriptors

theorem ofDocument_cut_ne_ok (cutoff : Cutoff) (label : String) (d : Descriptor) :
    ofDocument (.cut cutoff (some label)) ≠ .ok d := by
  simp [ofDocument, within_eq_ok_iff, fail]

theorem isModel_of_ofDocument_bounded {entries : List Entry} {room : Room} {d : Descriptor}
    (h : ofDocument (bounded .descriptor room (.mapping entries)) = .ok d) :
    IsModel d.variant entries := by
  rw [bounded] at h
  cases isVariant : Document.variant? (field? entries "kind") with
  | none =>
    simp only [isVariant] at h
    exact (ofDocument_mapping_eq_ok_iff.1 h).1
  | some kind =>
    simp only [isVariant] at h
    cases isModel : Model.ofKind? kind with
    | none =>
      simp only [isModel] at h
      split at h
      · exact (ofDocument_mapping_eq_ok_iff.1 h).1
      · exact absurd h (ofDocument_cut_ne_ok _ _ _)
    | some model =>
      simp only [isModel] at h
      split at h
      · exact isModel_boundedEntries.1 (ofDocument_mapping_eq_ok_iff.1 h).1
      · exact absurd h (ofDocument_cut_ne_ok _ _ _)

theorem ofDocument_bounded_mapping_eq_ok_iff {entries : List Entry}
    (json : IsJson (.mapping entries))
    (each : ∀ name v, field? entries name = some v → Agrees v) (room : Room) (d : Descriptor) :
    ofDocument (bounded .descriptor room (.mapping entries)) = .ok d ↔
      Describes (.mapping entries) d ∧ d.depth room.scope ≤ room.left := by
  by_cases names : IsModel d.variant entries
  · have isVariant : Document.variant? (field? entries "kind") = some d.variant := by
      rw [names.1, Document.variant?_label]
    rw [bounded]
    cases isModel : Model.ofKind? d.variant with
    | none =>
      have sameDepth := depth_of_leaf isModel room.scope
      simp only [isVariant, isModel, sameDepth, Room.holdsLeaf, decide_eq_true_eq]
      by_cases fits : Model.leafWeight ≤ room.left
      · simp [fits, ofDocument_leaf_eq_ok_iff json isModel]
      · simp [fits, ofDocument_cut_ne_ok]
    | some model =>
      have atLeast := weight_le_depth isModel room.scope
      simp only [isVariant, isModel]
      by_cases holds : room.holds model = true
      · rw [if_pos holds]
        exact ofDocument_model_eq_ok_iff json each isModel holds
      · have tooDeep : ¬ d.depth room.scope ≤ room.left := by
          simp only [Room.holds, decide_eq_true_eq] at holds
          omega
        simp [holds, ofDocument_cut_ne_ok, tooDeep]
  · constructor
    · intro h
      exact absurd (isModel_of_ofDocument_bounded h) names
    · rintro ⟨describes, -⟩
      obtain ⟨_, ⟨⟩, isModel⟩ := describes.exists_isModel
      exact absurd isModel names

/-! ### Levels -/

theorem levelOfDocument_bounded_mapping_eq_ok_iff {entries : List Entry}
    (json : IsJson (.mapping entries))
    (each : ∀ name v, field? entries name = some v → Agrees v) (scope : Model) (left : Nat)
    (level : Level Descriptor) :
    levelOfDocument (bounded .level ⟨some scope, left⟩ (.mapping entries)) = .ok level ↔
      DescribesLevel (.mapping entries) level ∧ depthOfLevel scope level ≤ left := by
  have underName : Expected.under (some .level) (.text (.ofString "name")) = .outline := rfl
  have underArguments :
      Expected.under (some .level) (.text (.ofString "type_arguments")) = .arguments := rfl
  obtain ⟨name, arguments⟩ := level
  rw [bounded]
  by_cases holds : Room.holds ⟨some scope, left⟩ .level = true
  · rw [if_pos holds, levelOfDocument_mapping_eq_ok_iff, depthOfLevel,
      ← Room.le_left_inside_iff holds]
    simp only [hasOnly_boundedEntries, exists_field?_boundedEntries, hasField_boundedEntries,
      underName, underArguments, bounded_outline]
    constructor
    · rintro ⟨keys, ⟨v, found, isName⟩, areArguments⟩
      obtain rfl := (text_eq_ok_iff (json.of_field? found)).1 isName
      rcases areArguments with ⟨absent, none⟩ | ⟨w, present, areRead⟩
      · obtain rfl : arguments = [] := none
        exact ⟨.bare keys found absent, Nat.zero_le _⟩
      · obtain ⟨⟨items, rfl, describe⟩, fits⟩ := ((each _ w present).arguments _ _ _).1 areRead
        exact ⟨.generic keys found present describe, fits⟩
    · rintro ⟨h, fits⟩
      cases h with
      | bare keys found absent =>
        exact ⟨keys, ⟨_, found, (text_eq_ok_iff (json.of_field? found)).2 rfl⟩, .inl ⟨absent, rfl⟩⟩
      | generic keys found present describe =>
        have areRead := ((each _ _ present).arguments _ _ _).2 ⟨⟨_, rfl, describe⟩, fits⟩
        exact ⟨keys, ⟨_, found, (text_eq_ok_iff (json.of_field? found)).2 rfl⟩,
          .inr ⟨_, present, areRead⟩⟩
  · have tooDeep : ¬ depthOfLevel scope ⟨name, arguments⟩ ≤ left := by
      simp only [Room.holds, decide_eq_true_eq] at holds
      simp only [depthOfLevel]
      omega
    simp [holds, tooDeep, levelOfDocument, fail]

end Descriptor
end TypeDisplay
