import TypeDisplay.Proofs.Fields
import TypeDisplay.Proofs.Occurrence
import TypeDisplay.Proofs.Reordering

/-!
# Reading complete documents

The complete document of a descriptor is read as this descriptor, and so is every document that
differs from it in the order of entries only.  Each field is found under its name with a value of
its own kind, no key is unknown, and no chain of levels is empty.
-/

namespace TypeDisplay

namespace Document

variable {fields : List (String × Document)} {entries : List Entry}

theorem IsRecord.hasBrokenKey_eq_false (h : IsRecord fields entries) :
    Descriptor.hasBrokenKey entries = false := by
  rw [Descriptor.hasBrokenKey, List.any_eq_false]
  rintro ⟨key, value⟩ member
  obtain ⟨name, -, -, rfl, -⟩ := h.of_mem member
  simp [Descriptor.isBroken, Text.string?_ofString]

theorem IsRecord.unknownKeys_eq_nil (h : IsRecord fields entries) {known : List String}
    (areKnown : ∀ field ∈ fields, field.1 ∈ known) :
    Descriptor.unknownKeys known entries = [] := by
  rw [Descriptor.unknownKeys, List.filterMap_eq_nil_iff]
  rintro ⟨key, value⟩ member
  obtain ⟨name, d, isField, rfl, -⟩ := h.of_mem member
  simpa [Descriptor.keyDetail?, Text.string?_ofString] using areKnown _ isField

end Document

namespace Descriptor

open Document (Reordered IsRecord field? text)
open Yaml.Written (sorted)

/-! ### Fields without descriptors -/

theorem text_text (name : Text) : Conversion.text (text name) = .ok name := rfl

theorem flag_bool (flag : Bool) : Conversion.flag (.bool flag) = .ok flag := rfl

theorem rank_int {n : Int} (positive : 1 ≤ n) : Conversion.rank (.int n) = .ok n := by
  simp [Conversion.rank, Conversion.integer, Document.int, positive]

theorem primitive_keyword (p : Primitive) :
    Conversion.primitive (.text p.keyword) = .ok p := by
  have known : Primitive.ofKeyword? p.keyword = some p := Primitive.ofKeyword?_eq_some_iff.2 rfl
  simp [Conversion.primitive, Conversion.fromText, Conversion.primitiveFromChars, text,
    Text.ofString, Text.chars?_ofChars, known]

theorem flag?_of_reordered {flag : Option Bool} {x : Document}
    (h : Reordered (flagDocument flag) x) : Conversion.flag? x = .ok flag := by
  cases flag with
  | none =>
    obtain rfl := h.eq_scalar
    rfl
  | some flag =>
    obtain rfl := h.eq_scalar
    rfl

theorem wellKnown?_of_reordered {wellKnown : Option WellKnown} {x : Document}
    (h : Reordered (wellKnownDocument wellKnown) x) : Conversion.wellKnown? x = .ok wellKnown := by
  cases wellKnown with
  | none =>
    obtain rfl := h.eq_scalar
    rfl
  | some tag =>
    obtain rfl := h.eq_scalar
    cases tag
    simp [Conversion.wellKnown?, Conversion.fromText, Text.ofString, Text.chars?_ofChars,
      Conversion.wellKnownFromChars]

theorem texts_map_text (index : Nat) (names : List Text) :
    Conversion.texts index (names.map text) = .ok names := by
  induction names generalizing index with
  | nil => rfl
  | cons name names ih =>
    simp [Conversion.texts, Conversion.text, text, Checked.within, Checked.both] at ih ⊢
    simp [ih]

theorem eq_map_text_of_map_sorted {names : List Text} {items : List Document}
    (same : (names.map text).map sorted = items.map sorted) :
    items = names.map text := by
  induction names generalizing items with
  | nil => simpa [eq_comm] using same
  | cons name names ih =>
    obtain ⟨item, rest, rfl, sameItem, sameRest⟩ := List.map_eq_cons_iff.1 same.symm
    have isText : item = .text name := Reordered.eq_scalar sameItem.symm
    rw [isText, List.map_cons, ih sameRest.symm]

theorem segments_of_reordered {names : List Text} {x : Document}
    (h : Reordered (.list (names.map text)) x) : Conversion.segments x = .ok names := by
  obtain ⟨items, rfl, same⟩ := h.eq_list
  rw [eq_map_text_of_map_sorted same, Conversion.segments, texts_map_text]

/-! ### Models -/

variable {entries : List Document.Entry}

/-- The documents of type arguments are read as these arguments, if each one is. -/
theorem argumentsOfItems_of_reordered {arguments : List Descriptor} {items : List Document}
    (each : ∀ a ∈ arguments, ∀ x, Reordered a.toDocument x → ofDocument x = .ok a)
    (same : (argumentDocuments arguments).map sorted = items.map sorted) (index : Nat) :
    argumentsOfItems index items = .ok arguments := by
  induction arguments generalizing items index with
  | nil =>
    obtain rfl : items = [] := by simpa [argumentDocuments, eq_comm] using same
    rw [argumentsOfItems]
  | cons a arguments ih =>
    obtain ⟨item, rest, rfl, sameItem, sameRest⟩ := List.map_eq_cons_iff.1 same.symm
    have first : ofDocument item = .ok a := each a (by simp) item sameItem.symm
    have others := ih (fun b member ↦ each b (by simp [member])) sameRest.symm (index + 1)
    -- A text would be read as the name of a parameter.
    have isMapping : ∀ name, item ≠ .scalar (.text name) := by
      rintro name rfl
      simp [ofDocument, Checked.fail] at first
    rw [argumentsOfItems]
    · simp [first, others, Checked.within, Checked.both, Except.map]
    · exact isMapping

def levelFields (level : Level Descriptor) : List (String × Document) :=
  [("name", text level.name), ("type_arguments", .list (argumentDocuments level.arguments))]

theorem levelOfDocument_of_reordered {level : Level Descriptor} {x : Document}
    (each : ∀ a ∈ level.arguments, ∀ x, Reordered a.toDocument x → ofDocument x = .ok a)
    (h : Reordered (record (levelFields level)) x) : levelOfDocument x = .ok level := by
  obtain ⟨entries, rfl, isRecord⟩ := h.eq_record
  have distinct : ((levelFields level).map Prod.fst).Nodup := by simp [levelFields]
  have unknown : unknownKeys levelFieldNames entries = [] :=
    isRecord.unknownKeys_eq_nil (by simp [levelFields, levelFieldNames])
  obtain ⟨nameValue, foundName, sameName⟩ := isRecord.field?_eq distinct (List.mem_cons_self ..)
  obtain ⟨value, found, sameArguments⟩ :=
    isRecord.field?_eq distinct (List.mem_cons_of_mem _ (List.mem_cons_self ..))
  obtain rfl := sameName.eq_scalar
  obtain ⟨items, rfl, sameItems⟩ := sameArguments.eq_list
  have areArguments : argumentsOfDocument (.list items) = .ok level.arguments := by
    rw [argumentsOfDocument]
    exact argumentsOfItems_of_reordered each sameItems 0
  rw [levelOfDocument_mapping, isRecord.hasBrokenKey_eq_false, unknown,
    plainField_of_field? foundName (text_text level.name), plainField_of_field? found areArguments]
  rfl

theorem levelsOfItems_of_reordered {levels : List (Level Descriptor)} {items : List Document}
    (each : ∀ a ∈ argumentsOf levels, ∀ x, Reordered a.toDocument x → ofDocument x = .ok a)
    (same : (levelDocuments levels).map sorted = items.map sorted) (index : Nat) :
    levelsOfItems index items = ([], levels) := by
  induction levels generalizing items index with
  | nil =>
    obtain rfl : items = [] := by simpa [levelDocuments, eq_comm] using same
    rw [levelsOfItems]
  | cons level levels ih =>
    obtain ⟨name, arguments⟩ := level
    obtain ⟨item, rest, rfl, sameItem, sameRest⟩ := List.map_eq_cons_iff.1 same.symm
    have first : levelOfDocument item = .ok ⟨name, arguments⟩ := by
      refine levelOfDocument_of_reordered (fun a member ↦ each a ?_) sameItem.symm
      simpa [argumentsOf] using Or.inl member
    have others : levelsOfItems (index + 1) rest = ([], levels) := by
      refine ih (fun a member ↦ each a ?_) sameRest.symm (index + 1)
      have inLevels : a ∈ argumentsOf levels := member
      simpa [argumentsOf] using Or.inr (mem_argumentsOf.1 inLevels)
    rw [levelsOfItems, others, first]
    rfl

theorem levelsOfDocument_of_reordered {levels : List (Level Descriptor)} {x : Document}
    (nonempty : levels ≠ [])
    (each : ∀ a ∈ argumentsOf levels, ∀ x, Reordered a.toDocument x → ofDocument x = .ok a)
    (h : Reordered (.list (levelDocuments levels)) x) : levelsOfDocument x = .ok levels := by
  obtain ⟨items, rfl, same⟩ := h.eq_list
  rw [levelsOfDocument, levelsOfItems_of_reordered each same]
  simp [levelsOf, nonempty]

/-! ### Descriptors -/

/-- The variant that the document of a descriptor names. -/
def variant : Descriptor → Kind
  | primitive _ => .primitive
  | void => .void
  | parameter _ => .parameter
  | named _ _ _ _ => .named
  | array _ _ _ => .array
  | pointer _ => .pointer
  | nullable _ => .nullable

def ownFields : Descriptor → List (String × Document)
  | primitive type => [("primitive", text type.keyword)]
  | void => []
  | parameter name => [("name", text name)]
  | named segments levels valueType wellKnown =>
      [("namespace", .list (segments.map text)), ("levels", .list (levelDocuments levels)),
        ("value_type", flagDocument valueType), ("well_known", wellKnownDocument wellKnown)]
  | array element rank multiDimensional =>
      [("element_type", toDocument element), ("rank", .int rank),
        ("multi_dimensional", .bool multiDimensional)]
  | pointer pointee => [("pointee", toDocument pointee)]
  | nullable underlying => [("underlying", toDocument underlying)]

def allFields (d : Descriptor) : List (String × Document) :=
  ("kind", text d.variant.label) :: d.ownFields

theorem toDocument_eq_record (d : Descriptor) : d.toDocument = record d.allFields := by
  cases d <;> rw [toDocument] <;> rfl

theorem map_fst_allFields (d : Descriptor) :
    d.allFields.map Prod.fst = "kind" :: fieldNames d.variant := by
  cases d <;> rfl

theorem nodup_allFields (d : Descriptor) : (d.allFields.map Prod.fst).Nodup := by
  rw [map_fst_allFields]
  cases d.variant <;> decide

section

variable {d : Descriptor} (h : IsRecord d.allFields entries)

include h

theorem field?_of_mem_ownFields {name : String} {content : Document}
    (isField : (name, content) ∈ d.ownFields) :
    ∃ value, field? entries name = some value ∧ Reordered content value :=
  h.field?_eq d.nodup_allFields (List.mem_cons_of_mem _ isField)

theorem unknownKeys_of_isRecord : unknownKeys ("kind" :: fieldNames d.variant) entries = [] := by
  refine h.unknownKeys_eq_nil fun field isField ↦ ?_
  rw [← map_fst_allFields]
  exact List.mem_map_of_mem isField

theorem field?_kind_of_isRecord : field? entries "kind" = some (text d.variant.label) := by
  obtain ⟨value, found, same⟩ := h.field?_eq d.nodup_allFields (List.mem_cons_self ..)
  rw [found, Reordered.eq_scalar same, text]

theorem ofDocument_of_isRecord (isRead : ofEntries d.variant entries = .ok d) :
    ofDocument (.mapping entries) = .ok d := by
  have known : Document.variant? (some (text d.variant.label)) = some d.variant := by
    simp [Document.variant?, text, Scalar.string?, Text.string?_ofString, Kind.ofLabel?_label]
  rw [ofDocument, field?_kind_of_isRecord h]
  simp [known, h.hasBrokenKey_eq_false, isRead, Checked.within]

end

/-- A well-formed descriptor is read from its document, whatever the order of the entries. -/
theorem ofDocument_of_reordered {d : Descriptor} (wellFormed : WellFormed d) {x : Document}
    (h : Reordered d.toDocument x) : ofDocument x = .ok d := by
  induction d using partsInduction generalizing x with
  | step d ih =>
    have each : ∀ c ∈ d.parts, ∀ y, Reordered c.toDocument y → ofDocument y = .ok c :=
      fun c isPart y ↦ ih c isPart (wellFormed.of_mem_parts isPart)
    rw [toDocument_eq_record] at h
    obtain ⟨entries, rfl, isRecord⟩ := h.eq_record
    refine ofDocument_of_isRecord isRecord ?_
    have unknown := unknownKeys_of_isRecord isRecord
    have own := @field?_of_mem_ownFields _ _ isRecord
    cases d with
    | primitive type =>
      obtain ⟨_, found, same⟩ := own (List.mem_cons_self ..)
      obtain rfl := same.eq_scalar
      rw [variant] at unknown ⊢
      rw [ofEntries, unknown, plainField_of_field? found (primitive_keyword type)]
      rfl
    | void =>
      rw [variant] at unknown ⊢
      rw [ofEntries, unknown]
      rfl
    | parameter name =>
      obtain ⟨_, found, same⟩ := own (List.mem_cons_self ..)
      obtain rfl := same.eq_scalar
      rw [variant] at unknown ⊢
      rw [ofEntries, unknown, plainField_of_field? found (text_text name)]
      rfl
    | named segments levels valueType wellKnown =>
      obtain ⟨_, foundSegments, sameSegments⟩ := own (List.mem_cons_self ..)
      obtain ⟨_, foundLevels, sameLevels⟩ := own (List.mem_cons_of_mem _ (List.mem_cons_self ..))
      obtain ⟨_, foundFlag, sameFlag⟩ :=
        own (List.mem_cons_of_mem _ (List.mem_cons_of_mem _ (List.mem_cons_self ..)))
      obtain ⟨_, foundTag, sameTag⟩ := own
        (List.mem_cons_of_mem _ (List.mem_cons_of_mem _ (List.mem_cons_of_mem _
          (List.mem_cons_self ..))))
      have areLevels := levelsOfDocument_of_reordered wellFormed.1 each sameLevels
      have isFlag := flag?_of_reordered sameFlag
      have isTag := wellKnown?_of_reordered sameTag
      rw [variant] at unknown ⊢
      rw [ofEntries_named, unknown,
        plainField_of_field? foundSegments (segments_of_reordered sameSegments),
        plainField_of_field? foundLevels areLevels, plainField_of_field? foundFlag isFlag,
        plainField_of_field? foundTag isTag]
      rfl
    | array e rank m =>
      obtain ⟨_, foundElement, sameElement⟩ := own (List.mem_cons_self ..)
      obtain ⟨_, foundRank, sameRank⟩ := own (List.mem_cons_of_mem _ (List.mem_cons_self ..))
      obtain ⟨_, foundFlag, sameFlag⟩ :=
        own (List.mem_cons_of_mem _ (List.mem_cons_of_mem _ (List.mem_cons_self ..)))
      have isElement := each e (by simp [parts]) _ sameElement
      obtain rfl := sameRank.eq_scalar
      obtain rfl := sameFlag.eq_scalar
      rw [variant] at unknown ⊢
      rw [ofEntries_array, unknown, plainField_of_field? foundElement isElement,
        plainField_of_field? foundRank (rank_int wellFormed.1),
        plainField_of_field? foundFlag (flag_bool m)]
      rfl
    | pointer p =>
      obtain ⟨_, found, same⟩ := own (List.mem_cons_self ..)
      have isPointee := each p (by simp [parts]) _ same
      rw [variant] at unknown ⊢
      rw [ofEntries_pointer, unknown, plainField_of_field? found isPointee]
      rfl
    | nullable u =>
      obtain ⟨_, found, same⟩ := own (List.mem_cons_self ..)
      have isUnderlying := each u (by simp [parts]) _ same
      rw [variant] at unknown ⊢
      rw [ofEntries_nullable, unknown, plainField_of_field? found isUnderlying]
      rfl

end Descriptor
end TypeDisplay
