import TypeDisplay.Descriptor.Depth
import TypeDisplay.Proofs.CompleteDocument
import TypeDisplay.Validation.Depth

/-!
# Documents in which nothing is cut

Before a document is read as a descriptor, two things are looked for in it: models for which there
is no room, and mappings that contain themselves.  Both walks go through the document in the same
way, guided by what is expected at a place.  A document fits when everything that is expected is
there and has room; then neither walk changes it.

The document of a descriptor that is not too deep fits, whatever the order of its entries.
-/

namespace TypeDisplay
namespace Document

/-- The document has the shape that is expected, and there is room for the models in it. -/
inductive Fits : Expected → Room → Document → Prop where
  | scalar {expected : Expected} {room : Room} (s : Scalar) (isOther : expected ≠ .level) :
      Fits expected room (.scalar s)
  | segments {room : Room} (names : List Text) :
      Fits .segments room (.list (names.map text))
  | levels {room : Room} {items : List Document} (each : ∀ x ∈ items, Fits .level room x) :
      Fits .levels room (.list items)
  | arguments {room : Room} {items : List Document} (noText : ∀ name, text name ∉ items)
      (each : ∀ x ∈ items, Fits .descriptor room x) : Fits .arguments room (.list items)
  | level {room : Room} {entries : List Entry} (holds : room.holds .level = true)
      (each : ∀ key value, (key, value) ∈ entries →
        Fits (.under (some .level) key) (room.inside .level) value) :
      Fits .level room (.mapping entries)
  | leaf {room : Room} {entries : List Entry} {kind : Kind}
      (label : field? entries "kind" = some (text kind.label)) (isLeaf : Model.ofKind? kind = none)
      (holds : room.holdsLeaf = true)
      (each : ∀ key value, (key, value) ∈ entries → ∃ s, value = .scalar s) :
      Fits .descriptor room (.mapping entries)
  | model {room : Room} {entries : List Entry} {kind : Kind} {model : Model}
      (label : field? entries "kind" = some (text kind.label))
      (isModel : Model.ofKind? kind = some model) (holds : room.holds model = true)
      (each : ∀ key value, (key, value) ∈ entries →
        Fits (.under (some model) key) (room.inside model) value) :
      Fits .descriptor room (.mapping entries)

theorem variant?_label (kind : Kind) : variant? (some (text kind.label)) = some kind := by
  simp [variant?, text, Scalar.string?, Text.string?_ofString, Kind.ofLabel?_label]

theorem boundedEntries_eq_self {model : Option Model} {room : Room} {entries : List Entry}
    (each : ∀ key value, (key, value) ∈ entries → bounded (.under model key) room value = value) :
    boundedEntries model room entries = entries := by
  induction entries with
  | nil => rfl
  | cons entry entries ih =>
    obtain ⟨key, value⟩ := entry
    rw [boundedEntries, each key value (by simp),
      ih fun key value member ↦ each key value (List.mem_cons_of_mem _ member)]

theorem boundedItems_eq_self {expected : Expected} {room : Room} {items : List Document}
    (noText : ∀ name, text name ∉ items) (each : ∀ x ∈ items, bounded expected room x = x) :
    boundedItems expected room items = items := by
  induction items with
  | nil => rfl
  | cons item items ih =>
    have isOther : ∀ name, item ≠ .scalar (.text name) := by
      rintro name rfl
      exact noText name (List.mem_cons_self ..)
    have rest : boundedItems expected room items = items :=
      ih (fun name member ↦ noText name (List.mem_cons_of_mem _ member))
        fun x member ↦ each x (List.mem_cons_of_mem _ member)
    rw [boundedItems, each item (by simp), rest]
    exact isOther

/-- Nothing is cut for lack of room. -/
theorem Fits.bounded_eq_self {expected : Expected} {room : Room} {x : Document}
    (h : Fits expected room x) : bounded expected room x = x := by
  induction h with
  | scalar s isOther => simp [bounded, isOther]
  | segments names => simp [bounded]
  | @levels room items each ih =>
    have noText : ∀ name, text name ∉ items := by
      intro name member
      cases each _ member with
      | scalar _ isOther => exact isOther rfl
    rw [bounded, boundedItems_eq_self noText ih]
  | arguments noText _ ih => rw [bounded, boundedItems_eq_self noText ih]
  | level holds _ ih => rw [bounded, if_pos holds, boundedEntries_eq_self ih]
  | leaf label isLeaf holds _ =>
    rw [bounded, label]
    simp only [variant?_label, isLeaf, holds, if_true]
  | model label isModel holds _ ih =>
    rw [bounded, label]
    simp only [variant?_label, isModel, holds, if_true]
    rw [boundedEntries_eq_self ih]

end Document

theorem Expected.under_ne_level (model : Option Model) (key : Scalar) :
    Expected.under model key ≠ .level := by
  unfold Expected.under
  split <;> simp

namespace Descriptor

open Document (Reordered IsRecord Fits text)
open Yaml.Written (sorted)

/-- A value without parts fits below every model. -/
theorem fits_under_of_scalar {content value : Document} (isScalar : ∃ s, content = .scalar s)
    (same : Reordered content value) (model : Option Model) (key : Scalar) (room : Room) :
    Fits (.under model key) room value := by
  obtain ⟨s, rfl⟩ := isScalar
  obtain rfl := same.eq_scalar
  exact .scalar s (Expected.under_ne_level model key)

theorem fits_of_isRecord {d : Descriptor} {entries : List Document.Entry}
    (isRecord : IsRecord d.allFields entries) {model : Model}
    (isModel : Model.ofKind? d.variant = some model) {room : Room}
    (holds : model.weight room.scope ≤ room.left)
    (each : ∀ name content, (name, content) ∈ d.ownFields → ∀ value, Reordered content value →
      Fits (.under (some model) (.text (.ofString name))) (room.inside model) value) :
    Fits .descriptor room (.mapping entries) := by
  refine .model (field?_kind_of_isRecord isRecord) isModel (by simpa [Room.holds]) ?_
  intro key value member
  obtain ⟨name, content, isField, rfl, same⟩ := isRecord.of_mem member
  rcases List.mem_cons.1 isField with isKind | isOwn
  · obtain ⟨rfl, rfl⟩ := Prod.mk.inj isKind
    obtain rfl := same.eq_scalar
    exact .scalar _ (Expected.under_ne_level _ _)
  · exact each name content isOwn value same

theorem flagDocument_eq_scalar (flag : Option Bool) : ∃ s, flagDocument flag = .scalar s := by
  cases flag <;> exact ⟨_, rfl⟩

theorem wellKnownDocument_eq_scalar (wellKnown : Option WellKnown) :
    ∃ s, wellKnownDocument wellKnown = .scalar s := by
  cases wellKnown <;> exact ⟨_, rfl⟩

/-- A variant without models in it has scalar fields only. -/
theorem eq_scalar_of_mem_allFields {d : Descriptor} (isLeaf : Model.ofKind? d.variant = none)
    {name : String} {content : Document} (isField : (name, content) ∈ d.allFields) :
    ∃ s, content = .scalar s := by
  rcases List.mem_cons.1 isField with isKind | isOwn
  · exact ⟨_, (Prod.mk.inj isKind).2⟩
  · cases d with
    | primitive _ | parameter _ => exact ⟨_, (Prod.mk.inj (List.mem_singleton.1 isOwn)).2⟩
    | void => cases isOwn
    | _ => cases isLeaf

theorem argumentDocuments_eq_map (arguments : List Descriptor) :
    argumentDocuments arguments = arguments.map toDocument := by
  induction arguments with
  | nil => rfl
  | cons a arguments ih => simp [argumentDocuments, ih]

theorem levelDocuments_eq_map (levels : List (Level Descriptor)) :
    levelDocuments levels = levels.map fun level ↦ record (levelFields level) := by
  induction levels with
  | nil => rfl
  | cons level levels ih => simp [levelDocuments, levelFields, ih]

theorem depth_le_depthOfArguments {scope : Model} {arguments : List Descriptor} {a : Descriptor}
    (h : a ∈ arguments) : a.depth (some scope) ≤ depthOfArguments scope arguments := by
  induction arguments with
  | nil => cases h
  | cons b arguments ih =>
    rw [depthOfArguments]
    rcases List.mem_cons.1 h with rfl | inRest
    · omega
    · have := ih inRest
      omega

/-- How deep one level of a chain is. -/
def depthOfLevel (scope : Model) (level : Level Descriptor) : Nat :=
  Model.level.weight (some scope) +
    depthOfArguments (Model.level.scope (some scope)) level.arguments

theorem depthOfLevel_le_depthOfLevels {scope : Model} {levels : List (Level Descriptor)}
    {level : Level Descriptor} (h : level ∈ levels) :
    depthOfLevel scope level ≤ depthOfLevels scope levels := by
  induction levels with
  | nil => cases h
  | cons other levels ih =>
    obtain ⟨name, arguments⟩ := other
    rw [depthOfLevels]
    rcases List.mem_cons.1 h with rfl | inRest
    · simp only [depthOfLevel]
      omega
    · have := ih inRest
      omega

section

variable {room : Room} {scope : Model}

theorem fits_of_arguments {arguments : List Descriptor} {x : Document}
    (inScope : room.scope = some scope) (fits : depthOfArguments scope arguments ≤ room.left)
    (each : ∀ a ∈ arguments, ∀ x, Reordered a.toDocument x → a.depth room.scope ≤ room.left →
      Fits .descriptor room x)
    (same : Reordered (.list (argumentDocuments arguments)) x) : Fits .arguments room x := by
  obtain ⟨items, rfl, sameItems⟩ := same.eq_list
  have isArgument : ∀ x ∈ items, ∃ a ∈ arguments, Reordered a.toDocument x := by
    intro x member
    obtain ⟨y, isDocument, sameItem⟩ := Document.exists_reordered_of_mem sameItems member
    rw [argumentDocuments_eq_map] at isDocument
    obtain ⟨a, inArguments, rfl⟩ := List.mem_map.1 isDocument
    exact ⟨a, inArguments, sameItem⟩
  refine .arguments ?_ ?_
  · intro name member
    obtain ⟨a, -, isText⟩ := isArgument _ member
    rw [toDocument_eq_record] at isText
    obtain ⟨_, isMapping, -⟩ := isText.eq_record
    cases isMapping
  · intro x member
    obtain ⟨a, inArguments, sameItem⟩ := isArgument x member
    refine each a inArguments x sameItem ?_
    rw [inScope]
    exact Nat.le_trans (depth_le_depthOfArguments inArguments) fits

theorem fits_of_level {level : Level Descriptor} {x : Document}
    (inScope : room.scope = some scope) (fits : depthOfLevel scope level ≤ room.left)
    (each : ∀ a ∈ level.arguments, ∀ x, Reordered a.toDocument x → ∀ room : Room,
      a.depth room.scope ≤ room.left → Fits .descriptor room x)
    (same : Reordered (record (levelFields level)) x) : Fits .level room x := by
  obtain ⟨entries, rfl, isRecord⟩ := same.eq_record
  rw [depthOfLevel, ← inScope] at fits
  refine .level (by simp only [Room.holds, decide_eq_true_eq]; omega) ?_
  intro key value member
  obtain ⟨name, content, isField, rfl, same⟩ := isRecord.of_mem member
  simp only [levelFields, List.mem_cons, Prod.mk.injEq, List.not_mem_nil, or_false] at isField
  obtain ⟨rfl, rfl⟩ | ⟨rfl, rfl⟩ := isField
  · exact fits_under_of_scalar ⟨_, rfl⟩ same _ _ _
  · refine fits_of_arguments rfl ?_ (fun a member x same ↦ each a member x same _) same
    simp only [Room.inside]
    omega

theorem fits_of_levels {levels : List (Level Descriptor)} {x : Document}
    (inScope : room.scope = some scope) (fits : depthOfLevels scope levels ≤ room.left)
    (each : ∀ a ∈ argumentsOf levels, ∀ x, Reordered a.toDocument x → ∀ room : Room,
      a.depth room.scope ≤ room.left → Fits .descriptor room x)
    (same : Reordered (.list (levelDocuments levels)) x) : Fits .levels room x := by
  obtain ⟨items, rfl, sameItems⟩ := same.eq_list
  refine .levels fun x member ↦ ?_
  obtain ⟨y, isDocument, sameItem⟩ := Document.exists_reordered_of_mem sameItems member
  rw [levelDocuments_eq_map] at isDocument
  obtain ⟨level, isLevel, rfl⟩ := List.mem_map.1 isDocument
  have fitsLevel := Nat.le_trans (depthOfLevel_le_depthOfLevels isLevel) fits
  refine fits_of_level inScope fitsLevel ?_ sameItem
  exact fun a isArgument ↦ each a (mem_argumentsOf.2 ⟨level, isLevel, isArgument⟩)

end

/-- The document of a descriptor fits where the descriptor is not too deep. -/
theorem fits_of_reordered {d : Descriptor} {x : Document} (h : Reordered d.toDocument x)
    {room : Room} (fits : d.depth room.scope ≤ room.left) : Fits .descriptor room x := by
  induction d using partsInduction generalizing x room with
  | step d ih =>
    rw [toDocument_eq_record] at h
    obtain ⟨entries, rfl, isRecord⟩ := h.eq_record
    cases d with
    | primitive _ | void | parameter _ =>
      refine .leaf (field?_kind_of_isRecord isRecord) rfl (by simpa [Room.holdsLeaf, depth]) ?_
      intro key value member
      obtain ⟨name, content, isField, rfl, same⟩ := isRecord.of_mem member
      obtain ⟨s, rfl⟩ := eq_scalar_of_mem_allFields rfl isField
      exact ⟨s, same.eq_scalar⟩
    | named segments levels valueType wellKnown =>
      rw [depth] at fits
      refine fits_of_isRecord isRecord rfl (by omega) ?_
      simp only [ownFields, List.mem_cons, Prod.mk.injEq, List.not_mem_nil, or_false]
      rintro _ _ (⟨rfl, rfl⟩ | ⟨rfl, rfl⟩ | ⟨rfl, rfl⟩ | ⟨rfl, rfl⟩) value same
      · obtain ⟨items, rfl, sameItems⟩ := same.eq_list
        rw [eq_map_text_of_map_sorted sameItems]
        exact .segments segments
      · refine fits_of_levels rfl (by simp only [Room.inside]; omega) ?_ same
        exact fun a isPart x same room ↦ ih a isPart same
      · exact fits_under_of_scalar (flagDocument_eq_scalar valueType) same _ _ _
      · exact fits_under_of_scalar (wellKnownDocument_eq_scalar wellKnown) same _ _ _
    | array e rank m =>
      rw [depth] at fits
      refine fits_of_isRecord isRecord rfl (by omega) ?_
      simp only [ownFields, List.mem_cons, Prod.mk.injEq, List.not_mem_nil, or_false]
      rintro _ _ (⟨rfl, rfl⟩ | ⟨rfl, rfl⟩ | ⟨rfl, rfl⟩) value same
      · exact ih e (by simp [parts]) same (by simp only [Room.inside]; omega)
      · exact fits_under_of_scalar ⟨_, rfl⟩ same _ _ _
      · exact fits_under_of_scalar ⟨_, rfl⟩ same _ _ _
    | pointer p =>
      rw [depth] at fits
      refine fits_of_isRecord isRecord rfl (by omega) ?_
      simp only [ownFields, List.mem_cons, Prod.mk.injEq, List.not_mem_nil, or_false]
      rintro _ _ ⟨rfl, rfl⟩ value same
      exact ih p (by simp [parts]) same (by simp only [Room.inside]; omega)
    | nullable u =>
      rw [depth] at fits
      refine fits_of_isRecord isRecord rfl (by omega) ?_
      simp only [ownFields, List.mem_cons, Prod.mk.injEq, List.not_mem_nil, or_false]
      rintro _ _ ⟨rfl, rfl⟩ value same
      exact ih u (by simp [parts]) same (by simp only [Room.inside]; omega)

end Descriptor
end TypeDisplay
