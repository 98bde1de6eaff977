import TypeDisplay.Proofs.PartDetails

/-!
# Matching outcomes

Two outcomes match when both are the same value, or when both are failures with related details.
Reading a model keeps the match: where the fields of two mappings match, so do the models that are
read from them, for every relation of details that is kept by the ways in which details are put
together.
-/

namespace TypeDisplay

open Checked
open Descriptor
open Document (Entry field? boundedItems)

namespace Checked

variable (D : List Detail → List Detail → Prop)

/-- The same value on both sides, or related details. -/
inductive Matches {α : Type} : Checked α → Checked α → Prop where
  | ok (a : α) : Matches (.ok a) (.ok a)
  | error {details others : List Detail} (related : D details others) :
      Matches (.error details) (.error others)

/-- Details stay related when they are put together and when places are put in front of them. -/
structure IsCongruence : Prop where
  refl (details : List Detail) : D details details
  append {details others details' others' : List Detail} (first : D details others)
    (second : D details' others') : D (details ++ details') (others ++ others')
  under {details others : List Detail} (related : D details others) (step : Step) :
    D (details.map (Detail.under [step])) (others.map (Detail.under [step]))
  eq_nil_iff {details others : List Detail} (related : D details others) :
    details = [] ↔ others = []

namespace Matches

variable {D} {α β : Type}

theorem map {x y : Checked α} (h : x.Matches D y) (f : α → β) :
    Matches D (Except.map f x) (Except.map f y) := by
  cases h with
  | ok a => exact .ok (f a)
  | error related => exact .error related

theorem eq {x y : Checked α} (h : x.Matches Eq y) : x = y := by
  cases h with
  | ok a => rfl
  | error related => rw [related]

variable (congruence : IsCongruence D)

include congruence

theorem refl (x : Checked α) : x.Matches D x := by
  cases x with
  | ok a => exact .ok a
  | error details => exact .error (congruence.refl details)

theorem details {x y : Checked α} (h : x.Matches D y) : D x.details y.details := by
  cases h with
  | ok a => exact congruence.refl []
  | error related => exact related

theorem within {x y : Checked α} (h : x.Matches D y) (step : Step) :
    (x.within step).Matches D (y.within step) := by
  cases h with
  | ok a => exact .ok a
  | error related => exact .error (congruence.under related step)

theorem both {x y : Checked α} {x' y' : Checked β} (h : x.Matches D y) (h' : x'.Matches D y') :
    (both x x').Matches D (Checked.both y y') := by
  cases h with
  | ok a =>
    cases h' with
    | ok b => exact .ok (a, b)
    | error related => exact .error related
  | error related =>
    cases h' with
    | ok b => exact .error related
    | error related' => exact .error (congruence.append related related')

theorem provided {x y : Checked α} (h : x.Matches D y) {details others : List Detail}
    (related : D details others) : (provided x details).Matches D (Checked.provided y others) := by
  have areNil := congruence.eq_nil_iff related
  cases h with
  | error related' => exact .error (congruence.append related' related)
  | ok a =>
    cases details with
    | nil =>
      obtain rfl := areNil.1 rfl
      exact .ok a
    | cons detail details =>
      cases others with
      | nil => cases areNil.2 rfl
      | cons other others => exact .error related

end Matches
end Checked

/-! ### Fields -/

variable (D : List Detail → List Detail → Prop)

/-- Documents match in a role once marks stand in place of what is too deep.  Plain values have to
be the same. -/
def Role.Matches : Role → Document → Document → Prop
  | .descriptor, v, w | .argument, v, w => (ofDocument v).Matches D (ofDocument w)
  | .fields .level, v, w => (levelOfDocument v).Matches D (levelOfDocument w)
  | .levels, v, w => (levelsOfDocument v).Matches D (levelsOfDocument w)
  | .arguments, v, w => (argumentsOfDocument v).Matches D (argumentsOfDocument w)
  | _, v, w => v = w

/-- The fields match, or both are not there. -/
def Field.Matches (field : Field) (entries others : List Entry) : Prop :=
  Option.Rel (field.role.Matches D) (field? entries field.name) (field? others field.name)

variable {D} {entries others : List Entry}

section fields

section

variable {α : Type} {name : String} {role : Role} {isRequired : Bool}
 (congruence : IsCongruence D)
  (found : Field.Matches D ⟨name, role, isRequired⟩ entries others)

include congruence found

theorem matches_field {absent : Checked α} {read : Document → Checked α}
    (isRead : ∀ v w, role.Matches D v w → (read v).Matches D (read w)) :
    (plainField entries name absent read).Matches D (plainField others name absent read) := by
  rw [Field.Matches] at found
  rw [plainField, plainField]
  generalize field? entries name = value at found
  generalize field? others name = other at found
  cases found with
  | none => exact .refl congruence absent
  | some related => exact (isRead _ _ related).within congruence _

theorem matches_plainField {absent : Checked α} {read : Document → Checked α}
    (isPlain : ∀ v w, role.Matches D v w → v = w) :
    (plainField entries name absent read).Matches D (plainField others name absent read) := by
  refine matches_field congruence found fun v w related ↦ ?_
  rw [isPlain v w related]
  exact .refl congruence _

end

theorem matches_ofEntries (congruence : IsCongruence D) (kind : Kind)
    (found : ∀ field ∈ (Form.variant kind).fields, field.Matches D entries others)
    (unknown : D (unknownKeys (Form.variant kind).names entries)
      (unknownKeys (Form.variant kind).names others)) :
    (ofEntries kind entries).Matches D (ofEntries kind others) := by
  cases kind with
  | void =>
    rw [ofEntries, ofEntries]
    exact Matches.provided congruence (.ok void) unknown
  | primitive =>
    rw [Form.fields, List.forall_mem_singleton] at found
    rw [ofEntries, ofEntries]
    refine Matches.provided congruence (.map ?_ primitive) unknown
    exact matches_plainField congruence found fun _ _ same ↦ same
  | parameter =>
    rw [Form.fields, List.forall_mem_singleton] at found
    rw [ofEntries, ofEntries]
    refine Matches.provided congruence (.map ?_ parameter) unknown
    exact matches_plainField congruence found fun _ _ same ↦ same
  | named =>
    simp only [Form.fields, List.forall_mem_cons] at found
    obtain ⟨segments, levels, valueType, wellKnown, -⟩ := found
    rw [ofEntries_named, ofEntries_named]
    refine Matches.provided congruence (.map (.both congruence ?_ (.both congruence ?_
      (.both congruence ?_ ?_))) _) unknown
    · exact matches_plainField congruence segments fun _ _ same ↦ same
    · exact matches_field congruence levels fun _ _ related ↦ related
    · exact matches_plainField congruence valueType fun _ _ same ↦ same
    · exact matches_plainField congruence wellKnown fun _ _ same ↦ same
  | array =>
    simp only [Form.fields, List.forall_mem_cons] at found
    obtain ⟨element, rank, flag, -⟩ := found
    rw [ofEntries_array, ofEntries_array]
    refine Matches.provided congruence (.map (.both congruence ?_ (.both congruence ?_ ?_)) _)
      unknown
    · exact matches_field congruence element fun _ _ related ↦ related
    · exact matches_plainField congruence rank fun _ _ same ↦ same
    · exact matches_plainField congruence flag fun _ _ same ↦ same
  | pointer =>
    rw [Form.fields, List.forall_mem_singleton] at found
    rw [ofEntries_pointer, ofEntries_pointer]
    refine Matches.provided congruence (.map ?_ pointer) unknown
    exact matches_field congruence found fun _ _ related ↦ related
  | nullable =>
    rw [Form.fields, List.forall_mem_singleton] at found
    rw [ofEntries_nullable, ofEntries_nullable]
    refine Matches.provided congruence (.map ?_ nullable) unknown
    exact matches_field congruence found fun _ _ related ↦ related

theorem matches_level (congruence : IsCongruence D)
    (sameBroken : hasBrokenKey entries = hasBrokenKey others)
    (found : ∀ field ∈ Form.level.fields, field.Matches D entries others)
    (unknown : D (unknownKeys Form.level.names entries) (unknownKeys Form.level.names others)) :
    (levelOfDocument (.mapping entries)).Matches D (levelOfDocument (.mapping others)) := by
  simp only [Form.fields, List.forall_mem_cons] at found
  obtain ⟨name, arguments, -⟩ := found
  rw [levelOfDocument_mapping, levelOfDocument_mapping, sameBroken]
  split
  · exact .refl congruence _
  · refine Matches.provided congruence (.map (.both congruence ?_ ?_) _) unknown
    · exact matches_plainField congruence name fun _ _ same ↦ same
    · exact matches_field congruence arguments fun _ _ related ↦ related

end fields

/-! ### Lists -/

section lists

variable (congruence : IsCongruence D) {items others : List Document}

include congruence

theorem matches_levelsOfItems
    (each : List.Forall₂ (Role.Matches D (.fields .level)) items others) (index : Nat) :
    D (levelsOfItems index items).1 (levelsOfItems index others).1 ∧
      (levelsOfItems index items).2 = (levelsOfItems index others).2 := by
  induction each generalizing index with
  | nil => exact ⟨congruence.refl _, rfl⟩
  | @cons item other items others first _ ih =>
    obtain ⟨related, sameLevels⟩ := ih (index + 1)
    have first : (levelOfDocument item).Matches D (levelOfDocument other) := first
    constructor
    · rw [details_levelsOfItems_cons, details_levelsOfItems_cons]
      exact congruence.append (congruence.under (first.details congruence) _) related
    · rw [levelsOfItems, levelsOfItems]
      generalize levelOfDocument item = x at first
      generalize levelOfDocument other = y at first
      cases first <;> simp [within, sameLevels]

theorem matches_levels
    (each : List.Forall₂ (Role.Matches D (.fields .level)) items others) :
    Role.Matches D .levels (.list items) (.list others) := by
  obtain ⟨related, sameLevels⟩ := matches_levelsOfItems congruence each 0
  have areEmpty : (levelsOfItems 0 items).1.isEmpty = (levelsOfItems 0 others).1.isEmpty := by
    rw [Bool.eq_iff_iff, List.isEmpty_iff, List.isEmpty_iff]
    exact congruence.eq_nil_iff related
  rw [Role.Matches, levelsOfDocument, levelsOfDocument, levelsOf, levelsOf, sameLevels, areEmpty]
  split
  · exact .error (congruence.append related (congruence.refl _))
  · split
    · exact .ok _
    · exact .error related

theorem matches_arguments (room : Room)
    (each : List.Forall₂ (fun v w ↦ (argumentOf room v).Matches D (argumentOf room w))
      items others) (index : Nat) :
    (argumentsOfItems index (boundedItems .descriptor room items)).Matches D
      (argumentsOfItems index (boundedItems .descriptor room others)) := by
  induction each generalizing index with
  | nil => exact .refl congruence _
  | @cons item other items others first _ ih =>
    rw [argumentsOfItems_boundedItems_cons, argumentsOfItems_boundedItems_cons]
    exact (Matches.both congruence (first.within congruence _) (ih (index + 1))).map _

end lists

end TypeDisplay
