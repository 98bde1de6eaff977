import TypeDisplay.Proofs.Fields

/-!
# Failures with details

A failed validation says what is wrong: its list of details is never empty.
-/

namespace TypeDisplay

namespace Checked

variable {α β : Type}

/-- The value is valid, or something is said about what is wrong. -/
def IsTold (x : Checked α) : Prop := x ≠ .error []

@[simp] theorem isTold_ok (a : α) : IsTold (.ok a : Checked α) := by
  simp [IsTold]

@[simp] theorem isTold_fail (fault : Fault) : IsTold (fail fault : Checked α) := by
  simp [IsTold, fail]

@[simp] theorem isTold_cons (detail : Detail) (details : List Detail) :
    IsTold (.error (detail :: details) : Checked α) := by
  simp [IsTold]

theorem isTold_error_iff {details : List Detail} :
    IsTold (.error details : Checked α) ↔ details ≠ [] := by
  simp [IsTold]

theorem IsTold.map {x : Checked α} (h : x.IsTold) (f : α → β) : IsTold (Except.map f x) := by
  cases x with
  | ok a => exact isTold_ok (f a)
  | error details => exact isTold_error_iff.2 (isTold_error_iff.1 h)

theorem IsTold.within {x : Checked α} (h : x.IsTold) (step : Step) : (x.within step).IsTold := by
  cases x with
  | ok a => exact isTold_ok a
  | error details => exact isTold_error_iff.2 fun none ↦
      isTold_error_iff.1 h (List.map_eq_nil_iff.1 none)

theorem IsTold.append {details : List Detail} (h : IsTold (.error details : Checked α))
    (others : List Detail) : IsTold (.error (details ++ others) : Checked β) :=
  isTold_error_iff.2 fun none ↦ isTold_error_iff.1 h (List.append_eq_nil_iff.1 none).1

theorem IsTold.both {x : Checked α} {y : Checked β} (hx : x.IsTold) (hy : y.IsTold) :
    (both x y).IsTold := by
  cases x with
  | ok a =>
    cases y with
    | ok b => exact isTold_ok (a, b)
    | error details => exact isTold_error_iff.2 (isTold_error_iff.1 hy)
  | error details =>
    cases y with
    | ok b => exact isTold_error_iff.2 (isTold_error_iff.1 hx)
    | error others => exact hx.append others

theorem IsTold.provided {x : Checked α} (h : x.IsTold) (others : List Detail) :
    (provided x others).IsTold := by
  cases x with
  | ok a =>
    cases others with
    | nil => exact isTold_ok a
    | cons detail details => exact isTold_cons detail details
  | error details => exact h.append others

end Checked

namespace Conversion

open Checked

theorem isTold_fromText {α : Type} {read : List Char → Checked α}
    (h : ∀ cs, (read cs).IsTold) (s : Text) : (fromText read s).IsTold := by
  unfold fromText
  split
  · apply h
  · simp

theorem isTold_text (v : Document) : (text v).IsTold := by
  unfold text
  repeat' split
  all_goals simp

theorem isTold_integer (v : Document) : (integer v).IsTold := by
  have chars : ∀ cs, (integerFromChars cs).IsTold := by
    intro cs
    unfold integerFromChars
    split <;> simp
  unfold integer
  repeat' split
  all_goals simp [isTold_fromText, chars]

theorem isTold_rank (v : Document) : (rank v).IsTold := by
  have told := isTold_integer v
  unfold rank
  split
  · split <;> simp
  · rename_i details failed
    rw [failed] at told
    exact isTold_error_iff.2 (isTold_error_iff.1 told)

theorem isTold_flag (v : Document) : (flag v).IsTold := by
  have chars : ∀ cs, (flagFromChars cs).IsTold := by
    intro cs
    unfold flagFromChars
    split <;> simp
  have number : ∀ n, (flagFromInteger n).IsTold := by
    intro n
    unfold flagFromInteger
    repeat' split
    all_goals simp
  unfold flag
  repeat' split
  all_goals simp [isTold_fromText, chars, number]

theorem isTold_flag? (v : Document) : (flag? v).IsTold := by
  have told := isTold_flag v
  unfold flag?
  split
  · simp
  · split
    · simp
    · rename_i details failed
      rw [failed] at told
      exact isTold_error_iff.2 (isTold_error_iff.1 told)

theorem isTold_primitive (v : Document) : (primitive v).IsTold := by
  have chars : ∀ cs, (primitiveFromChars cs).IsTold := by
    intro cs
    unfold primitiveFromChars
    split <;> simp
  unfold primitive
  split <;> simp [isTold_fromText, chars]

theorem isTold_wellKnown? (v : Document) : (wellKnown? v).IsTold := by
  have chars : ∀ cs, (wellKnownFromChars cs).IsTold := by
    intro cs
    unfold wellKnownFromChars
    split <;> simp
  unfold wellKnown?
  split <;> simp [isTold_fromText, chars]

theorem isTold_texts (index : Nat) (items : List Document) : (texts index items).IsTold := by
  induction items generalizing index with
  | nil => simp [texts]
  | cons item items ih =>
    have told := ((isTold_text item).within (.index index)).both (ih (index + 1))
    rw [texts]
    split
    · simp
    · rename_i details failed
      rw [failed] at told
      exact isTold_error_iff.2 (isTold_error_iff.1 told)

theorem isTold_segments (v : Document) : (segments v).IsTold := by
  unfold segments
  split <;> simp [isTold_texts]

end Conversion

namespace Descriptor

open Checked
open Document (Entry field?)

theorem isTold_plainField {α : Type} {entries : List Entry} {name : String} {absent : Checked α}
    {read : Document → Checked α} (told : absent.IsTold)
    (each : ∀ v, field? entries name = some v → (read v).IsTold) :
    (plainField entries name absent read).IsTold := by
  unfold plainField
  split
  · exact told
  · rename_i v found
    exact (each v found).within _

theorem isTold_missing {α : Type} (name : String) : (missing name : Checked α).IsTold := by
  simp [missing]

theorem isTold_levelsOf (read : List Detail × List (Level Descriptor)) :
    (levelsOf read).IsTold := by
  obtain ⟨details, levels⟩ := read
  cases levels <;> cases details <;> simp [levelsOf]

theorem isTold_levelsOfDocument (v : Document) : (levelsOfDocument v).IsTold := by
  cases v with
  | list items =>
    rw [levelsOfDocument]
    apply isTold_levelsOf
  | set items =>
    rw [levelsOfDocument]
    split <;> apply isTold_levelsOf
  | _ => simp [levelsOfDocument]

theorem isTold_ofEntries {entries : List Entry} (kind : Kind)
    (inner : ∀ name v, field? entries name = some v → (ofDocument v).IsTold) :
    (ofEntries kind entries).IsTold := by
  have field : ∀ name, (plainField entries name (missing name) ofDocument).IsTold :=
    fun name ↦ isTold_plainField (isTold_missing name) (inner name)
  cases kind with
  | primitive =>
    have type : (plainField entries "primitive" (missing "primitive")
        Conversion.primitive).IsTold :=
      isTold_plainField (isTold_missing _) fun v _ ↦ Conversion.isTold_primitive v
    rw [ofEntries]
    exact (type.map _).provided _
  | void =>
    rw [ofEntries]
    exact (isTold_ok _).provided _
  | parameter =>
    have name : (plainField entries "name" (missing "name") Conversion.text).IsTold :=
      isTold_plainField (isTold_missing _) fun v _ ↦ Conversion.isTold_text v
    rw [ofEntries]
    exact (name.map _).provided _
  | named =>
    have segments : (plainField entries "namespace" (.ok []) Conversion.segments).IsTold :=
      isTold_plainField (isTold_ok _) fun v _ ↦ Conversion.isTold_segments v
    have levels : (plainField entries "levels" (missing "levels") levelsOfDocument).IsTold :=
      isTold_plainField (isTold_missing _) fun v _ ↦ isTold_levelsOfDocument v
    have flag : (plainField entries "value_type" (.ok none) Conversion.flag?).IsTold :=
      isTold_plainField (isTold_ok _) fun v _ ↦ Conversion.isTold_flag? v
    have tag : (plainField entries "well_known" (.ok none) Conversion.wellKnown?).IsTold :=
      isTold_plainField (isTold_ok _) fun v _ ↦ Conversion.isTold_wellKnown? v
    rw [ofEntries_named]
    exact ((segments.both (levels.both (flag.both tag))).map _).provided _
  | array =>
    have rank : (plainField entries "rank" (.ok 1) Conversion.rank).IsTold :=
      isTold_plainField (isTold_ok _) fun v _ ↦ Conversion.isTold_rank v
    have flag : (plainField entries "multi_dimensional" (.ok false) Conversion.flag).IsTold :=
      isTold_plainField (isTold_ok _) fun v _ ↦ Conversion.isTold_flag v
    rw [ofEntries_array]
    exact (((field "element_type").both (rank.both flag)).map _).provided _
  | pointer =>
    rw [ofEntries_pointer]
    exact ((field "pointee").map _).provided _
  | nullable =>
    rw [ofEntries_nullable]
    exact ((field "underlying").map _).provided _

/-- A document that is no descriptor has a detail. -/
theorem isTold_ofDocument (v : Document) : (ofDocument v).IsTold := by
  cases v with
  | mapping entries =>
    have inner : ∀ name v, field? entries name = some v → (ofDocument v).IsTold :=
      fun name v found ↦ isTold_ofDocument v
    rw [ofDocument]
    split
    · simp
    split
    · simp
    split
    · exact (isTold_fail _).within _
    rename_i kind _ _
    exact (isTold_ofEntries kind inner).within _
  | cut cutoff label =>
    cases label with
    | none => simp [ofDocument]
    | some label =>
      rw [ofDocument]
      exact (isTold_fail _).within _
  | _ => simp [ofDocument]
termination_by sizeOf v
decreasing_by
  have smaller := Document.sizeOf_field?_lt found
  simp only [Document.mapping.sizeOf_spec]
  omega

theorem isTold_strayItems {α : Type} (fault : Fault) (count : Nat) :
    (strayItems fault count : Checked (List α)).IsTold := by
  unfold strayItems
  split
  · simp
  · rename_i someItem
    rw [isTold_error_iff]
    simpa using someItem

theorem isTold_argumentsOfItems (index : Nat) (items : List Document) :
    (argumentsOfItems index items).IsTold := by
  induction items generalizing index with
  | nil => simp [argumentsOfItems]
  | cons item items ih =>
    have rest := ih (index + 1)
    by_cases isText : ∃ name, item = .scalar (.text name)
    · obtain ⟨name, rfl⟩ := isText
      rw [argumentsOfItems]
      exact ((isTold_ok _).both rest).map _
    · rw [argumentsOfItems]
      · exact (((isTold_ofDocument item).within _).both rest).map _
      · rintro name rfl
        exact isText ⟨name, rfl⟩

theorem isTold_argumentsOfDocument (v : Document) : (argumentsOfDocument v).IsTold := by
  unfold argumentsOfDocument
  split
  · apply isTold_argumentsOfItems
  · apply isTold_strayItems
  · apply isTold_strayItems
  · simp

theorem isTold_levelOfDocument (v : Document) : (levelOfDocument v).IsTold := by
  cases v with
  | mapping entries =>
    have name : (plainField entries "name" (missing "name") Conversion.text).IsTold :=
      isTold_plainField (isTold_missing _) fun v _ ↦ Conversion.isTold_text v
    have arguments : (plainField entries "type_arguments" (.ok []) argumentsOfDocument).IsTold :=
      isTold_plainField (isTold_ok _) fun v _ ↦ isTold_argumentsOfDocument v
    rw [levelOfDocument_mapping]
    split
    · simp
    · exact ((name.both arguments).map _).provided _
  | _ => simp [levelOfDocument]

end Descriptor
end TypeDisplay
