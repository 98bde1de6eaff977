import TypeDisplay.Proofs.Acceptance

/-!
# Grammar of single mappings

What a mapping describes whose entries are written down one by one, in terms of what its fields
stand for.  A look-up among such entries is a look-up by name.
-/

namespace TypeDisplay
namespace Descriptor

open Document (Entry field? text IsJson)

section

variable {fields : List (String × Document)} {name : String}
  {kind : Kind} {d : Descriptor}

theorem field?_record :
    field? (fields.map fun field ↦ (.text field.1, field.2)) name = fields.lookup name := by
  induction fields with
  | nil => rfl
  | cons field fields ih =>
    obtain ⟨key, value⟩ := field
    rw [List.lookup_cons, ← ih]
    by_cases same : name = key
    · simp [field?, same]
    · have other : Text.ofString key ≠ Text.ofString name :=
        fun equal ↦ same (Text.ofString_injective equal).symm
      simp [field?, beq_false_of_ne same, other]

/-- The label of a mapping decides which variant it describes. -/
theorem variant_of_describes (h : Describes (record fields) d)
    (label : fields.lookup "kind" = some (text kind.label)) : d.variant = kind := by
  obtain ⟨entries, same, isLabel, -⟩ := h.exists_isModel
  obtain rfl := Document.mapping.inj same
  rw [field?_record, label] at isLabel
  have isVariant := Document.variant?_label d.variant
  rw [← Option.some.inj isLabel, Document.variant?_label] at isVariant
  exact (Option.some.inj isVariant).symm

theorem isModel_record (label : fields.lookup "kind" = some (text kind.label))
    (known : ∀ field ∈ fields, field.1 ∈ "kind" :: fieldNames kind) :
    IsModel kind (fields.map fun field ↦ (.text field.1, field.2)) :=
  ⟨field?_record.trans label, hasOnly_record known⟩

theorem map_text_injective {names others : List Text} (h : names.map text = others.map text) :
    names = others :=
  List.map_injective_iff.2 (fun a b same ↦ by simpa [text] using same) h

theorem hasField_record {α : Type} {absent a : α} {stands : Document → α → Prop} {v : Document}
    (found : fields.lookup name = some v) :
    HasField (fields.map fun field ↦ (.text field.1, field.2)) name absent stands a ↔
      stands v a := by
  simp [HasField, field?_record, found]

theorem hasField_record_of_absent {α : Type} {absent a : α} {stands : Document → α → Prop}
    (notFound : fields.lookup name = none) :
    HasField (fields.map fun field ↦ (.text field.1, field.2)) name absent stands a ↔
      a = absent := by
  simp [HasField, field?_record, notFound]

theorem describes_primitive_iff {v : Document} :
    Describes (record [("kind", text "primitive"), ("primitive", v)]) d ↔
      ∃ type : Primitive, v = text type.keyword ∧ d = primitive type := by
  constructor
  · intro h
    have isPrimitive : d.variant = .primitive := variant_of_describes h rfl
    cases h with
    | primitive _ found =>
      rw [field?_record] at found
      exact ⟨_, Option.some.inj found, rfl⟩
    | _ => cases isPrimitive
  · rintro ⟨type, rfl, rfl⟩
    exact .primitive (isModel_record rfl (by simp [fieldNames])) (field?_record.trans rfl)

theorem describes_void_iff : Describes (record [("kind", text "void")]) d ↔ d = void := by
  constructor
  · intro h
    have isVoid : d.variant = .void := variant_of_describes h rfl
    cases h with
    | void => rfl
    | _ => cases isVoid
  · rintro rfl
    exact .void (isModel_record rfl (by simp))

theorem describes_parameter_iff {n : Text} :
    Describes (record [("kind", text "parameter"), ("name", text n)]) d ↔ d = parameter n := by
  constructor
  · intro h
    have isParameter : d.variant = .parameter := variant_of_describes h rfl
    cases h with
    | parameter _ found =>
      rw [field?_record] at found
      have same : text n = text _ := Option.some.inj found
      simpa [text, eq_comm] using same
    | _ => cases isParameter
  · rintro rfl
    exact .parameter (isModel_record rfl (by simp [fieldNames])) (field?_record.trans rfl)

theorem describes_pointer_iff {v : Document} :
    Describes (record [("kind", text "pointer"), ("pointee", v)]) d ↔
      ∃ pointee, Describes v pointee ∧ d = pointer pointee := by
  constructor
  · intro h
    have isPointer : d.variant = .pointer := variant_of_describes h rfl
    cases h with
    | pointer _ found describes =>
      rw [field?_record] at found
      obtain rfl := Option.some.inj found
      exact ⟨_, describes, rfl⟩
    | _ => cases isPointer
  · rintro ⟨pointee, describes, rfl⟩
    exact .pointer (isModel_record rfl (by simp [fieldNames])) (field?_record.trans rfl) describes

theorem describes_nullable_iff {v : Document} :
    Describes (record [("kind", text "nullable"), ("underlying", v)]) d ↔
      ∃ underlying, Describes v underlying ∧ d = nullable underlying := by
  constructor
  · intro h
    have isNullable : d.variant = .nullable := variant_of_describes h rfl
    cases h with
    | nullable _ found describes =>
      rw [field?_record] at found
      obtain rfl := Option.some.inj found
      exact ⟨_, describes, rfl⟩
    | _ => cases isNullable
  · rintro ⟨underlying, describes, rfl⟩
    exact .nullable (isModel_record rfl (by simp [fieldNames])) (field?_record.trans rfl) describes

theorem describes_array_iff {v rank multiDimensional : Document} :
    Describes (record [("kind", text "array"), ("element_type", v), ("rank", rank),
        ("multi_dimensional", multiDimensional)]) d ↔
      ∃ element r m, Describes v element ∧ IsRank rank r ∧ StandsForFlag multiDimensional m ∧
        d = array element r m := by
  constructor
  · intro h
    have isArray : d.variant = .array := variant_of_describes h rfl
    cases h with
    | array _ found describes isRank isFlag =>
      rw [field?_record] at found
      obtain rfl := Option.some.inj found
      exact ⟨_, _, _, describes, (hasField_record rfl).1 isRank, (hasField_record rfl).1 isFlag, rfl⟩
    | _ => cases isArray
  · rintro ⟨element, r, m, describes, isRank, isFlag, rfl⟩
    exact .array (isModel_record rfl (by simp [fieldNames])) (field?_record.trans rfl) describes
      ((hasField_record rfl).2 isRank) ((hasField_record rfl).2 isFlag)

/-- A named type whose namespace, levels and flag are all written down. -/
theorem describes_named_iff {segments : List Text} {items : List Document} {valueType : Document}
    (label : fields.lookup "kind" = some (text "named"))
    (known : ∀ field ∈ fields, field.1 ∈ "kind" :: fieldNames .named)
    (isNamespace : fields.lookup "namespace" = some (.list (segments.map text)))
    (areItems : fields.lookup "levels" = some (.list items))
    (isFlag : fields.lookup "value_type" = some valueType) :
    Describes (record fields) d ↔
      ∃ levels flag tag, items ≠ [] ∧ List.Forall₂ DescribesLevel items levels ∧
        StandsForFlag? valueType flag ∧
        HasField (fields.map fun field ↦ (.text field.1, field.2)) "well_known" none IsTag tag ∧
        d = named segments levels flag tag := by
  constructor
  · intro h
    have isNamed : d.variant = .named := variant_of_describes h label
    cases h with
    | named _ hasSegments found nonempty areLevels hasFlag hasTag =>
      rw [field?_record, areItems] at found
      obtain rfl := Document.list.inj (Option.some.inj found)
      have sameSegments := (hasField_record isNamespace).1 hasSegments
      obtain rfl := map_text_injective (Document.list.inj sameSegments)
      exact ⟨_, _, _, nonempty, areLevels, (hasField_record isFlag).1 hasFlag, hasTag, rfl⟩
    | _ => cases isNamed
  · rintro ⟨levels, flag, tag, nonempty, areLevels, hasFlag, hasTag, rfl⟩
    exact .named (isModel_record label known) ((hasField_record isNamespace).2 rfl)
      (field?_record.trans areItems) nonempty areLevels ((hasField_record isFlag).2 hasFlag) hasTag

theorem describes_untagged_iff {segments : List Text} {items : List Document}
    {valueType : Document} :
    Describes (record [("kind", text "named"), ("namespace", .list (segments.map text)),
        ("levels", .list items), ("value_type", valueType)]) d ↔
      ∃ levels flag, items ≠ [] ∧ List.Forall₂ DescribesLevel items levels ∧
        StandsForFlag? valueType flag ∧ d = named segments levels flag none := by
  rw [describes_named_iff rfl (by simp [fieldNames]) rfl rfl rfl]
  constructor
  · rintro ⟨levels, flag, tag, nonempty, areLevels, isFlag, noTag, rfl⟩
    obtain rfl := (hasField_record_of_absent rfl).1 noTag
    exact ⟨levels, flag, nonempty, areLevels, isFlag, rfl⟩
  · rintro ⟨levels, flag, nonempty, areLevels, isFlag, rfl⟩
    exact ⟨levels, flag, none, nonempty, areLevels, isFlag,
      (hasField_record_of_absent rfl).2 rfl, rfl⟩

/-! ### Single levels and arguments -/

theorem describesLevel_bare_iff {n : Text} {level : Level Descriptor} :
    DescribesLevel (record [("name", text n)]) level ↔ level = ⟨n, []⟩ := by
  constructor
  · intro h
    cases h with
    | bare _ found _ =>
      rw [field?_record] at found
      have same : text n = text _ := Option.some.inj found
      simpa [text, eq_comm] using same
    | generic _ _ found _ =>
      rw [field?_record] at found
      cases found
  · rintro rfl
    exact .bare (hasOnly_record (by simp [levelFieldNames])) (field?_record.trans rfl)
      (field?_record.trans rfl)

theorem describesLevel_generic_iff {n : Text} {items : List Document} {level : Level Descriptor} :
    DescribesLevel (record [("name", text n), ("type_arguments", .list items)]) level ↔
      ∃ arguments, List.Forall₂ DescribesArgument items arguments ∧ level = ⟨n, arguments⟩ := by
  constructor
  · intro h
    cases h with
    | bare _ _ absent =>
      rw [field?_record] at absent
      cases absent
    | generic _ isName found areArguments =>
      rw [field?_record] at isName found
      have same : text n = text _ := Option.some.inj isName
      obtain rfl : n = _ := by simpa [text] using same
      obtain rfl := Document.list.inj (Option.some.inj found)
      exact ⟨_, areArguments, rfl⟩
  · rintro ⟨arguments, areArguments, rfl⟩
    exact .generic (hasOnly_record (by simp [levelFieldNames])) (field?_record.trans rfl)
      (field?_record.trans rfl) areArguments

end

theorem describes_nullableNamed_iff {v : Document} {d : Descriptor} :
    Describes (record [("kind", text "named"), ("namespace", .list [text "System"]),
        ("levels", .list [record [("name", text "Nullable"), ("type_arguments", .list [v])]]),
        ("value_type", .bool true), ("well_known", text WellKnown.nullable.identity)]) d ↔
      ∃ a, DescribesArgument v a ∧
        d = named ["System"] [⟨"Nullable", [a]⟩] (some true) (some .nullable) := by
  have oneSegment : [text "System"] = [("System" : Text)].map text := rfl
  rw [oneSegment, describes_named_iff rfl (by simp [fieldNames]) rfl rfl rfl]
  constructor
  · rintro ⟨levels, flag, tag, -, areLevels, isFlag, isTag, rfl⟩
    obtain ⟨level, _, isLevel, ⟨⟩, rfl⟩ := List.forall₂_cons_left_iff.1 areLevels
    obtain ⟨arguments, areArguments, rfl⟩ := describesLevel_generic_iff.1 isLevel
    obtain ⟨a, _, isArgument, ⟨⟩, rfl⟩ := List.forall₂_cons_left_iff.1 areArguments
    rw [hasField_record rfl] at isTag
    cases isFlag with
    | known isFlag =>
      cases isFlag
      cases isTag
      exact ⟨a, isArgument, rfl⟩
  · rintro ⟨a, isArgument, rfl⟩
    have isLevel : DescribesLevel _ ⟨"Nullable", [a]⟩ :=
      describesLevel_generic_iff.2 ⟨[a], .cons isArgument .nil, rfl⟩
    exact ⟨_, _, _, List.cons_ne_nil _ _, .cons isLevel .nil, .known (.bool true),
      (hasField_record rfl).2 .tagged, rfl⟩

theorem isJson_texts (names : List Text) : IsJson (.list (names.map text)) := by
  refine .list fun x member ↦ ?_
  obtain ⟨name, -, rfl⟩ := List.mem_map.1 member
  exact .text name

end Descriptor
end TypeDisplay
