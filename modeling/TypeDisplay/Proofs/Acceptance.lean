import TypeDisplay.Proofs.AcceptedModels
import TypeDisplay.Proofs.Details

/-!
# Accepted documents

Validation accepts a JSON document exactly when the grammar says that it describes a descriptor for
which there is room, and yields this descriptor.  Every other document has a detail.
-/

namespace TypeDisplay
namespace Descriptor

open Checked
open Document (Entry field? text IsJson bounded boundedItems)

/-! ### Lists -/

theorem levelsOfItems_cons_eq_iff {index : Nat} {item : Document} {items : List Document}
    {levels : List (Level Descriptor)} :
    levelsOfItems index (item :: items) = ([], levels) ↔
      ∃ first rest, levelOfDocument item = .ok first ∧
        levelsOfItems (index + 1) items = ([], rest) ∧ levels = first :: rest := by
  -- A level that is not read leaves a detail, so without details none was passed over.
  have told := (isTold_levelOfDocument item).within (.index index)
  rw [levelsOfItems]
  cases others : levelsOfItems (index + 1) items with
  | mk details rest =>
    cases isRead : levelOfDocument item with
    | ok first => simp [within, and_assoc, eq_comm]
    | error wrong =>
      rw [isRead] at told
      simp only [within] at told ⊢
      simp [isTold_error_iff.1 told]

theorem levelsOf_eq_ok_iff {read : List Detail × List (Level Descriptor)}
    {levels : List (Level Descriptor)} :
    levelsOf read = .ok levels ↔ read = ([], levels) ∧ levels ≠ [] := by
  obtain ⟨details, valid⟩ := read
  cases valid with
  | nil => simp [levelsOf]
  | cons first rest =>
    cases details with
    | nil =>
      constructor
      · intro h
        obtain rfl := Except.ok.inj h
        exact ⟨rfl, List.cons_ne_nil _ _⟩
      · rintro ⟨same, -⟩
        obtain ⟨-, rfl⟩ := Prod.mk.inj same
        rfl
    | cons detail details => simp [levelsOf]

theorem argumentsOfItems_cons_eq_ok_iff {index : Nat} {item : Document} {items : List Document}
    {arguments : List Descriptor} :
    argumentsOfItems index (item :: items) = .ok arguments ↔
      ∃ first rest, ((∃ name, item = text name ∧ first = parameter name) ∨
          ofDocument item = .ok first) ∧
        argumentsOfItems (index + 1) items = .ok rest ∧ arguments = first :: rest := by
  by_cases isText : ∃ name, item = text name
  · obtain ⟨name, rfl⟩ := isText
    rw [text, argumentsOfItems, except_map_eq_ok_iff]
    simp only [Prod.exists, both_eq_ok_iff]
    constructor
    · rintro ⟨first, rest, ⟨isName, areRest⟩, rfl⟩
      obtain rfl := Except.ok.inj isName
      exact ⟨_, rest, .inl ⟨name, rfl, rfl⟩, areRest, rfl⟩
    · rintro ⟨first, rest, isFirst, areRest, rfl⟩
      rcases isFirst with ⟨_, ⟨⟩, rfl⟩ | isRead
      · exact ⟨_, rest, ⟨rfl, areRest⟩, rfl⟩
      · simp [ofDocument, fail] at isRead
  · rw [argumentsOfItems, except_map_eq_ok_iff]
    · simp only [Prod.exists, both_eq_ok_iff, within_eq_ok_iff]
      constructor
      · rintro ⟨first, rest, ⟨isRead, areRest⟩, rfl⟩
        exact ⟨first, rest, .inr isRead, areRest, rfl⟩
      · rintro ⟨first, rest, isFirst, areRest, rfl⟩
        rcases isFirst with ⟨name, isName, -⟩ | isRead
        · exact absurd ⟨name, isName⟩ isText
        · exact ⟨first, rest, ⟨isRead, areRest⟩, rfl⟩
    · exact fun name same ↦ isText ⟨name, same⟩

theorem bounded_descriptor_ne_text {item : Document} (noText : ∀ name, item ≠ text name)
    (room : Room) (name : Text) : bounded .descriptor room item ≠ text name := by
  intro same
  cases item with
  | mapping entries =>
    rw [bounded] at same
    repeat' split at same
    all_goals cases same
  | _ =>
    simp only [bounded, reduceCtorEq, false_and, if_false] at same
    exact noText name same

theorem boundedItems_cons {expected : Expected} {room : Room} {item : Document}
    {items : List Document} (isOther : expected ≠ .descriptor ∨ ∀ name, item ≠ text name) :
    boundedItems expected room (item :: items) =
      bounded expected room item :: boundedItems expected room items := by
  by_cases isText : ∃ name, item = text name
  · obtain ⟨name, rfl⟩ := isText
    have otherPlace : expected ≠ .descriptor := isOther.resolve_right fun h ↦ h name rfl
    simp [text, boundedItems, otherPlace]
  · rw [boundedItems]
    exact fun name same ↦ isText ⟨name, same⟩

section chains

variable {scope : Model} {left : Nat} {items : List Document}

theorem levelsOfItems_bounded_eq_iff (each : ∀ x ∈ items, Agrees x) (index : Nat)
    (levels : List (Level Descriptor)) :
    levelsOfItems index (boundedItems .level ⟨some scope, left⟩ items) = ([], levels) ↔
      List.Forall₂ DescribesLevel items levels ∧ depthOfLevels scope levels ≤ left := by
  induction items generalizing index levels with
  | nil =>
    rw [boundedItems, levelsOfItems]
    constructor
    · intro h
      obtain rfl := (Prod.mk.inj h).2
      exact ⟨.nil, Nat.zero_le _⟩
    · rintro ⟨h, -⟩
      cases h
      rfl
  | cons item items ih =>
    have first := (each item (by simp)).level scope left
    have others := ih (fun x member ↦ each x (by simp [member])) (index + 1)
    have isOther : Expected.level ≠ .descriptor := by decide
    rw [boundedItems_cons (.inl isOther), levelsOfItems_cons_eq_iff]
    constructor
    · rintro ⟨level, rest, isLevel, areLevels, rfl⟩
      obtain ⟨describes, fits⟩ := (first level).1 isLevel
      obtain ⟨describeRest, fitsRest⟩ := (others rest).1 areLevels
      rw [depthOfLevels]
      exact ⟨.cons describes describeRest, Nat.max_le.2 ⟨fits, fitsRest⟩⟩
    · rintro ⟨h, fits⟩
      cases h with
      | @cons _ level _ rest describes describeRest =>
        rw [depthOfLevels] at fits
        obtain ⟨fitsLevel, fitsRest⟩ := Nat.max_le.1 fits
        exact ⟨level, rest, (first level).2 ⟨describes, fitsLevel⟩,
          (others rest).2 ⟨describeRest, fitsRest⟩, rfl⟩

theorem describesArgument_text_iff {name : Text} {d : Descriptor} :
    DescribesArgument (text name) d ↔ d = parameter name := by
  constructor
  · intro h
    cases h with
    | name => rfl
    | type describes => cases describes
  · rintro rfl
    exact .name name

theorem describesArgument_iff_describes {item : Document} (noText : ∀ name, item ≠ text name)
    {d : Descriptor} : DescribesArgument item d ↔ Describes item d := by
  constructor
  · intro h
    cases h with
    | name name => exact absurd rfl (noText name)
    | type describes => exact describes
  · exact .type

theorem argumentsOfItems_bounded_cons_eq_ok_iff {item : Document} (agrees : Agrees item)
    (index : Nat) (arguments : List Descriptor) :
    argumentsOfItems index (boundedItems .descriptor ⟨some scope, left⟩ (item :: items)) =
        .ok arguments ↔
      ∃ first rest, (DescribesArgument item first ∧ first.depth (some scope) ≤ left) ∧
        argumentsOfItems (index + 1) (boundedItems .descriptor ⟨some scope, left⟩ items) =
          .ok rest ∧ arguments = first :: rest := by
  by_cases isText : ∃ name, item = text name
  · obtain ⟨name, rfl⟩ := isText
    have noMapping : ∀ d, ofDocument (text name) ≠ .ok d := by
      intro d
      simp [text, ofDocument, fail]
    have isBounded : boundedItems .descriptor ⟨some scope, left⟩ (text name :: items) =
        (if Model.leafWeight ≤ left then text name
          else .cut .depth (some Kind.parameter.label)) ::
          boundedItems .descriptor ⟨some scope, left⟩ items := by
      by_cases fits : Model.leafWeight ≤ left <;>
        simp [text, boundedItems, bounded, Room.holdsLeaf, fits]
    rw [isBounded, argumentsOfItems_cons_eq_ok_iff]
    simp only [describesArgument_text_iff]
    by_cases fits : Model.leafWeight ≤ left
    · rw [if_pos fits]
      constructor
      · rintro ⟨first, rest, isFirst, areRest⟩
        rcases isFirst with ⟨_, ⟨⟩, rfl⟩ | isRead
        · exact ⟨_, rest, ⟨rfl, by rwa [depth]⟩, areRest⟩
        · exact absurd isRead (noMapping first)
      · rintro ⟨first, rest, ⟨rfl, -⟩, areRest⟩
        exact ⟨_, rest, .inl ⟨name, rfl, rfl⟩, areRest⟩
    · rw [if_neg fits]
      constructor
      · rintro ⟨first, rest, isFirst, -⟩
        rcases isFirst with ⟨_, ⟨⟩, -⟩ | isRead
        exact absurd isRead (ofDocument_cut_ne_ok _ _ _)
      · rintro ⟨first, rest, ⟨rfl, fitsLeaf⟩, -⟩
        rw [depth] at fitsLeaf
        exact absurd fitsLeaf fits
  · have noText : ∀ name, item ≠ text name := fun name same ↦ isText ⟨name, same⟩
    rw [boundedItems_cons (.inr noText), argumentsOfItems_cons_eq_ok_iff]
    simp only [bounded_descriptor_ne_text noText, false_and, exists_false, false_or,
      describesArgument_iff_describes noText, agrees.descriptor]

theorem argumentsOfItems_bounded_eq_ok_iff (each : ∀ x ∈ items, Agrees x) (index : Nat)
    (arguments : List Descriptor) :
    argumentsOfItems index (boundedItems .descriptor ⟨some scope, left⟩ items) = .ok arguments ↔
      List.Forall₂ DescribesArgument items arguments ∧
        depthOfArguments scope arguments ≤ left := by
  induction items generalizing index arguments with
  | nil =>
    rw [boundedItems, argumentsOfItems]
    constructor
    · intro h
      obtain rfl := Except.ok.inj h
      exact ⟨.nil, Nat.zero_le _⟩
    · rintro ⟨h, -⟩
      cases h
      rfl
  | cons item items ih =>
    have others := ih (fun x member ↦ each x (by simp [member])) (index + 1)
    rw [argumentsOfItems_bounded_cons_eq_ok_iff (each item (by simp))]
    constructor
    · rintro ⟨first, rest, ⟨describes, fits⟩, areRest, rfl⟩
      obtain ⟨describeRest, fitsRest⟩ := (others rest).1 areRest
      rw [depthOfArguments]
      exact ⟨.cons describes describeRest, Nat.max_le.2 ⟨fits, fitsRest⟩⟩
    · rintro ⟨h, fits⟩
      cases h with
      | @cons _ first _ rest describes describeRest =>
        rw [depthOfArguments] at fits
        obtain ⟨fitsFirst, fitsRest⟩ := Nat.max_le.1 fits
        exact ⟨first, rest, ⟨describes, fitsFirst⟩, (others rest).2 ⟨describeRest, fitsRest⟩, rfl⟩

end chains

/-! ### Documents -/

theorem agrees_scalar {s : Scalar} (noBytes : ∀ octets, s ≠ .bytes octets) :
    Agrees (.scalar s) where
  descriptor room d := by
    have isBounded : bounded .descriptor room (.scalar s) = .scalar s := by simp [bounded]
    have undescribed : ¬ Describes (.scalar s) d := by
      intro h
      cases h
    simp [isBounded, undescribed, ofDocument, fail]
  level scope left level := by
    have undescribed : ¬ DescribesLevel (.scalar s) level := by
      intro h
      cases h
    by_cases holds : Room.holds ⟨some scope, left⟩ .level = true <;>
      simp [bounded, holds, undescribed, levelOfDocument, fail]
  levels scope left levels := by
    have isBounded : bounded .levels ⟨some scope, left⟩ (.scalar s) = .scalar s := by
      simp [bounded]
    simp [isBounded, levelsOfDocument, fail]
  arguments scope left arguments := by
    have isBounded : bounded .arguments ⟨some scope, left⟩ (.scalar s) = .scalar s := by
      simp [bounded]
    have noList : argumentsOfDocument (.scalar s) = fail .notSequence := by
      cases s with
      | bytes octets => exact absurd rfl (noBytes octets)
      | _ => rw [argumentsOfDocument] <;> simp
    simp [isBounded, noList, fail]

theorem agrees_list {items : List Document} (each : ∀ x ∈ items, Agrees x) :
    Agrees (.list items) where
  descriptor room d := by
    have undescribed : ¬ Describes (.list items) d := by
      intro h
      cases h
    simp [bounded, undescribed, ofDocument, fail]
  level scope left level := by
    have undescribed : ¬ DescribesLevel (.list items) level := by
      intro h
      cases h
    by_cases holds : Room.holds ⟨some scope, left⟩ .level = true <;>
      simp [bounded, holds, undescribed, levelOfDocument, fail]
  levels scope left levels := by
    rw [bounded, levelsOfDocument, levelsOf_eq_ok_iff, levelsOfItems_bounded_eq_iff each]
    constructor
    · rintro ⟨⟨describe, fits⟩, nonempty⟩
      refine ⟨⟨items, rfl, ?_, describe⟩, fits⟩
      rintro rfl
      cases describe
      exact nonempty rfl
    · rintro ⟨⟨_, ⟨⟩, nonempty, describe⟩, fits⟩
      refine ⟨⟨describe, fits⟩, ?_⟩
      rintro rfl
      cases describe
      exact nonempty rfl
  arguments scope left arguments := by
    rw [bounded, argumentsOfDocument, argumentsOfItems_bounded_eq_ok_iff each]
    constructor
    · rintro ⟨describe, fits⟩
      exact ⟨⟨items, rfl, describe⟩, fits⟩
    · rintro ⟨⟨_, ⟨⟩, describe⟩, fits⟩
      exact ⟨describe, fits⟩

theorem agrees_mapping {entries : List Entry} (json : IsJson (.mapping entries))
    (each : ∀ entry ∈ entries, Agrees entry.2) : Agrees (.mapping entries) where
  descriptor :=
    ofDocument_bounded_mapping_eq_ok_iff json fun _ _ found ↦ each _ (Document.field?_mem found)
  level :=
    levelOfDocument_bounded_mapping_eq_ok_iff json
      fun _ _ found ↦ each _ (Document.field?_mem found)
  levels scope left levels := by simp [bounded, levelsOfDocument, fail]
  arguments scope left arguments := by simp [bounded, argumentsOfDocument, fail]

theorem agrees_of_isJson {v : Document} (json : IsJson v) : Agrees v := by
  induction json with
  | list _ ih => exact agrees_list ih
  | mapping areTexts each ih => exact agrees_mapping (.mapping areTexts each) ih
  | null | bool _ | int _ | float _ | text _ => exact agrees_scalar (by simp)

theorem validate_eq_ok_iff {v : Document} (json : IsJson v) (d : Descriptor) :
    validate v = .ok d ↔ Describes v d ∧ d.isTooDeep = false := by
  rw [validate, (agrees_of_isJson json).descriptor]
  simp [isTooDeep, Room.whole]

/-- Validation accepts exactly the grammar, as far as there is room for the models, and reports at
least one detail otherwise. -/
theorem validate_iff_describes {v : Document} (json : IsJson v) :
    (∀ d, validate v = .ok d ↔ Describes v d ∧ d.isTooDeep = false) ∧
      ∀ details, validate v = .error details → details ≠ [] := by
  refine ⟨validate_eq_ok_iff json, ?_⟩
  intro details failed
  have told := isTold_ofDocument (v.bounded .descriptor .whole)
  rw [validate] at failed
  rw [failed] at told
  exact isTold_error_iff.1 told

/-- A generic type with a parameter by its name. -/
def openList : Document :=
  record [("kind", text "named"),
    ("levels", .list [record [("name", text "List"), ("type_arguments", .list [text "T"])]])]

theorem isJson_record {fields : List (String × Document)}
    (each : ∀ field ∈ fields, IsJson field.2) : IsJson (record fields) := by
  refine .mapping ?_ ?_
  · intro entry member
    obtain ⟨field, -, rfl⟩ := List.mem_map.1 member
    exact ⟨_, rfl⟩
  · intro entry member
    obtain ⟨field, isField, rfl⟩ := List.mem_map.1 member
    exact each field isField

theorem hasOnly_record {names : List String} {fields : List (String × Document)}
    (each : ∀ field ∈ fields, field.1 ∈ names) :
    HasOnly names (fields.map fun field ↦ (.text field.1, field.2)) := by
  intro entry member
  obtain ⟨field, isField, rfl⟩ := List.mem_map.1 member
  exact ⟨field.1, each field isField, rfl⟩

theorem isJson_openList : IsJson openList := by
  have isLevel : IsJson (record [("name", text "List"), ("type_arguments", .list [text "T"])]) := by
    apply isJson_record
    simp [IsJson.text, IsJson.list]
  apply isJson_record
  simp [IsJson.text, IsJson.list, isLevel]

theorem validate_openList :
    validate openList = .ok (named [] [⟨"List", [parameter "T"]⟩] none none) := by
  have isLevel : DescribesLevel
      (record [("name", text "List"), ("type_arguments", .list [text "T"])])
      ⟨"List", [parameter "T"]⟩ :=
    .generic (hasOnly_record (by decide)) rfl rfl (.cons (.name _) .nil)
  have describes : Describes openList (named [] [⟨"List", [parameter "T"]⟩] none none) :=
    .named ⟨rfl, hasOnly_record (by decide)⟩ (.inl ⟨rfl, rfl⟩) rfl (List.cons_ne_nil _ _)
      (.cons isLevel .nil) (.inl ⟨rfl, rfl⟩) (.inl ⟨rfl, rfl⟩)
  exact ((validate_iff_describes isJson_openList).1 _).2 ⟨describes, rfl⟩

/-! ### Too many models -/

def nestedPointers : Nat → Descriptor
  | 0 => void
  | n + 1 => pointer (nestedPointers n)

theorem isJson_nestedPointers (n : Nat) : IsJson (nestedPointers n).toDocument := by
  induction n with
  | zero =>
    rw [nestedPointers, toDocument]
    apply isJson_record
    simp [IsJson.text]
  | succ n ih =>
    rw [nestedPointers, toDocument]
    apply isJson_record
    simp [IsJson.text, ih]

theorem describes_nestedPointers (n : Nat) :
    Describes (nestedPointers n).toDocument (nestedPointers n) := by
  induction n with
  | zero =>
    rw [nestedPointers, toDocument]
    exact .void ⟨rfl, hasOnly_record (by simp)⟩
  | succ n ih =>
    have otherKey : Text.ofString "kind" ≠ Text.ofString "pointee" := by decide
    rw [nestedPointers, toDocument]
    refine .pointer ⟨rfl, hasOnly_record (by simp [fieldNames])⟩ ?_ ih
    simp [field?, otherKey]

theorem depth_nestedPointers (n : Nat) : (nestedPointers n).depth (some .pointer) = n + 1 := by
  induction n with
  | zero => rfl
  | succ n ih =>
    have inScope : Model.pointer.scope (some .pointer) = .pointer := rfl
    have weight : Model.pointer.weight (some .pointer) = 1 := rfl
    rw [nestedPointers, depth, inScope, ih, weight]
    omega

theorem isTooDeep_nestedPointers_iff {n : Nat} :
    (nestedPointers n).isTooDeep = true ↔ 254 ≤ n := by
  rw [isTooDeep, decide_eq_true_eq]
  cases n with
  | zero => decide
  | succ n =>
    have inScope : Model.pointer.scope none = .pointer := rfl
    have weight : Model.pointer.weight none = 2 := rfl
    have limit : Model.depthLimit = 255 := rfl
    rw [nestedPointers, depth, inScope, depth_nestedPointers, weight, limit]
    omega

/-- The grammar alone does not say what is accepted. -/
theorem validate_nestedPointers :
    IsJson (nestedPointers 254).toDocument ∧
      Describes (nestedPointers 254).toDocument (nestedPointers 254) ∧
      validate (nestedPointers 254).toDocument ≠ .ok (nestedPointers 254) := by
  have json := isJson_nestedPointers 254
  refine ⟨json, describes_nestedPointers 254, ?_⟩
  intro accepted
  have fits := ((validate_eq_ok_iff json _).1 accepted).2
  rw [isTooDeep_nestedPointers_iff.2 (Nat.le_refl 254)] at fits
  cases fits

end Descriptor
end TypeDisplay
