import TypeDisplay.Proofs.Details

/-!
# Collected details

The details of a failed validation are those of its parts, one part after the other, each moved to
the place of the part.  A valid part has none.

Lists are read item by item, so their details split where the list does.  The lack of levels is the
only detail that is about several parts at once.
-/

namespace TypeDisplay

/-- The detail, found below a place. -/
def Detail.under (place : List Step) (d : Detail) : Detail :=
  ⟨place ++ d.place, d.fault⟩

@[simp] theorem Detail.map_under_nil (details : List Detail) :
    details.map (under []) = details :=
  List.map_id details

@[simp] theorem Detail.under_under (place outer : List Step) (d : Detail) :
    (d.under place).under outer = d.under (outer ++ place) := by
  simp [under]

namespace Checked

variable {α β : Type}

@[simp] theorem details_ok (a : α) : details (.ok a : Checked α) = [] := rfl

@[simp] theorem details_error (wrong : List Detail) :
    details (.error wrong : Checked α) = wrong := rfl

@[simp] theorem details_within (step : Step) (x : Checked α) :
    (x.within step).details = x.details.map (Detail.under [step]) := by
  cases x <;> rfl

@[simp] theorem details_map (f : α → β) (x : Checked α) :
    Checked.details (Except.map f x) = x.details := by
  cases x <;> rfl

@[simp] theorem details_both (x : Checked α) (y : Checked β) :
    (both x y).details = x.details ++ y.details := by
  cases x <;> cases y <;> simp [both]

@[simp] theorem details_provided (x : Checked α) (others : List Detail) :
    (provided x others).details = x.details ++ others := by
  cases x <;> cases others <;> simp [provided]

theorem eq_error_of_details {x : Checked α} {wrong : List Detail} (h : x.details = wrong)
    (isSome : wrong ≠ []) : x = .error wrong := by
  cases x with
  | ok a => exact absurd h.symm isSome
  | error details => exact congrArg Except.error h

theorem IsTold.details_eq_nil_iff {x : Checked α} (told : x.IsTold) :
    x.details = [] ↔ ∃ a, x = .ok a := by
  cases x with
  | ok a => simp
  | error details => simpa using isTold_error_iff.1 told

end Checked

namespace Descriptor

open Checked
open Document (Entry field?)

/-! ### Mappings -/

section mappings

variable {entries : List Entry}

theorem details_ofDocument_mapping {kind : Kind}
    (label : Document.variant? (field? entries "kind") = some kind) :
    (ofDocument (.mapping entries)).details =
      (if hasBrokenKey entries then (fail .textUndecodable : Checked Descriptor).details
        else (ofEntries kind entries).details).map (Detail.under [.name kind.label]) := by
  rw [ofDocument]
  cases found : field? entries "kind" with
  | none =>
    rw [found] at label
    cases label
  | some v =>
    rw [found] at label
    simp only [label]
    split <;> simp

theorem details_levelOfDocument_mapping :
    (levelOfDocument (.mapping entries)).details =
      if hasBrokenKey entries then (fail .textUndecodable : Checked Descriptor).details
      else
        (plainField entries "name" (missing "name") Conversion.text).details ++
          (plainField entries "type_arguments" (.ok []) argumentsOfDocument).details ++
            unknownKeys levelFieldNames entries := by
  rw [levelOfDocument_mapping]
  split
  · rfl
  · simp

end mappings

/-! ### Lists -/

theorem details_argumentsOfItems_text (name : Text) (items : List Document) (index : Nat) :
    (argumentsOfItems index (.scalar (.text name) :: items)).details =
      (argumentsOfItems (index + 1) items).details := by
  simp [argumentsOfItems]

theorem details_argumentsOfItems_cons {item : Document}
    (notName : ∀ name, item ≠ .scalar (.text name)) (items : List Document) (index : Nat) :
    (argumentsOfItems index (item :: items)).details =
      (ofDocument item).details.map (Detail.under [.index index]) ++
        (argumentsOfItems (index + 1) items).details := by
  rw [argumentsOfItems]
  · simp
  · exact notName

theorem details_argumentsOfItems_append (items others : List Document) (index : Nat) :
    (argumentsOfItems index (items ++ others)).details =
      (argumentsOfItems index items).details ++
        (argumentsOfItems (index + items.length) others).details := by
  induction items generalizing index with
  | nil => simp [argumentsOfItems]
  | cons item items ih =>
    have next : index + 1 + items.length = index + (items.length + 1) := by omega
    by_cases isText : ∃ name, item = .scalar (.text name)
    · obtain ⟨name, rfl⟩ := isText
      simp [details_argumentsOfItems_text, ih, next]
    · have notName : ∀ name, item ≠ .scalar (.text name) := fun name same ↦ isText ⟨name, same⟩
      simp [details_argumentsOfItems_cons notName, ih, next]

theorem details_levelsOfItems_cons (item : Document) (items : List Document) (index : Nat) :
    (levelsOfItems index (item :: items)).1 =
      (levelOfDocument item).details.map (Detail.under [.index index]) ++
        (levelsOfItems (index + 1) items).1 := by
  rw [levelsOfItems]
  cases isRead : levelOfDocument item with
  | ok level => simp [within]
  | error details => simp [within, Detail.under]

theorem details_levelsOfItems_append (items others : List Document) (index : Nat) :
    (levelsOfItems index (items ++ others)).1 =
      (levelsOfItems index items).1 ++ (levelsOfItems (index + items.length) others).1 := by
  induction items generalizing index with
  | nil => simp [levelsOfItems]
  | cons item items ih =>
    have next : index + 1 + items.length = index + (items.length + 1) := by omega
    simp [details_levelsOfItems_cons, ih, next]

/-- No item of a list of levels is a valid level. -/
def LacksLevels (items : List Document) : Prop :=
  ∀ item ∈ items, ∀ level, levelOfDocument item ≠ .ok level

theorem lacksLevels_cons_iff {item : Document} {items : List Document} :
    LacksLevels (item :: items) ↔ (levelOfDocument item).details ≠ [] ∧ LacksLevels items := by
  rw [LacksLevels, List.forall_mem_cons, ne_eq, (isTold_levelOfDocument item).details_eq_nil_iff,
    not_exists]
  rfl

theorem levels_eq_nil_iff {items : List Document} {index : Nat} :
    (levelsOfItems index items).2 = [] ↔ LacksLevels items := by
  induction items generalizing index with
  | nil => simp [levelsOfItems, LacksLevels]
  | cons item items ih =>
    have told := isTold_levelOfDocument item
    rw [levelsOfItems, lacksLevels_cons_iff]
    cases isRead : levelOfDocument item with
    | ok level => simp [within]
    | error details =>
      rw [isRead, isTold_error_iff] at told
      simp [within, told, ih]

instance (items : List Document) : Decidable (LacksLevels items) :=
  decidable_of_iff ((levelsOfItems 0 items).2 = []) levels_eq_nil_iff

/-- The lack of levels is reported after what is wrong with each of them. -/
theorem details_levelsOfDocument_list (items : List Document) :
    (levelsOfDocument (.list items)).details =
      (levelsOfItems 0 items).1 ++ if LacksLevels items then [⟨[], .noLevel⟩] else [] := by
  rw [levelsOfDocument, levelsOf]
  by_cases lacks : LacksLevels items
  · simp [levels_eq_nil_iff.2 lacks, lacks]
  · have isSome : (levelsOfItems 0 items).2.isEmpty = false := by
      simpa [levels_eq_nil_iff] using lacks
    cases isRead : levelsOfItems 0 items with
    | mk details levels =>
      rw [isRead] at isSome
      cases details <;> simp [isSome, lacks]

end Descriptor
end TypeDisplay
