import TypeDisplay.Validation

/-!
# Fields of models

A model is read field by field.  A field that holds a descriptor, a chain of levels or type
arguments is looked up and read in the same way as the fields that hold plain values, and only its
value is read differently.
-/

namespace TypeDisplay
namespace Descriptor

open Document (Entry field?)

section

variable {α : Type} (entries : List Entry) (name : String) (absent : Checked α)
  (read : Document → Checked α)

/-- How fields appear where the value has to be known to be smaller. -/
theorem plainField_eq_match :
    (match _h : field? entries name with
      | none => absent
      | some d => (read d).within (.name name)) =
      plainField entries name absent read := by
  rw [plainField]
  generalize field? entries name = value
  cases value <;> rfl

variable {entries name absent read}

theorem plainField_of_field? {value : Document} {a : α}
    (found : field? entries name = some value) (isRead : read value = .ok a) :
    plainField entries name absent read = .ok a := by
  simp [plainField, found, isRead, Checked.within]

end

variable (entries : List Entry)

theorem ofEntries_named :
    ofEntries .named entries =
      Checked.provided
        ((Checked.both (plainField entries "namespace" (.ok []) Conversion.segments)
          (Checked.both (plainField entries "levels" (missing "levels") levelsOfDocument)
            (Checked.both (plainField entries "value_type" (.ok none) Conversion.flag?)
              (plainField entries "well_known" (.ok none) Conversion.wellKnown?)))).map
          fun (s, ls, v, w) ↦ named s ls v w)
        (unknownKeys ("kind" :: fieldNames .named) entries) := by
  rw [← plainField_eq_match entries "levels"]
  unfold ofEntries
  rfl

theorem ofEntries_array :
    ofEntries .array entries =
      Checked.provided
        ((Checked.both (plainField entries "element_type" (missing "element_type") ofDocument)
          (Checked.both (plainField entries "rank" (.ok 1) Conversion.rank)
            (plainField entries "multi_dimensional" (.ok false) Conversion.flag))).map
          fun (e, r, m) ↦ array e r m)
        (unknownKeys ("kind" :: fieldNames .array) entries) := by
  rw [← plainField_eq_match entries "element_type"]
  unfold ofEntries
  rfl

theorem ofEntries_pointer :
    ofEntries .pointer entries =
      Checked.provided
        ((plainField entries "pointee" (missing "pointee") ofDocument).map pointer)
        (unknownKeys ("kind" :: fieldNames .pointer) entries) := by
  rw [← plainField_eq_match]
  unfold ofEntries
  rfl

theorem ofEntries_nullable :
    ofEntries .nullable entries =
      Checked.provided
        ((plainField entries "underlying" (missing "underlying") ofDocument).map nullable)
        (unknownKeys ("kind" :: fieldNames .nullable) entries) := by
  rw [← plainField_eq_match]
  unfold ofEntries
  rfl

theorem levelOfDocument_mapping :
    levelOfDocument (.mapping entries) =
      if hasBrokenKey entries then Checked.fail .textUndecodable
      else
        Checked.provided
          ((Checked.both (plainField entries "name" (missing "name") Conversion.text)
            (plainField entries "type_arguments" (.ok []) argumentsOfDocument)).map
            fun (n, as) ↦ ⟨n, as⟩)
          (unknownKeys levelFieldNames entries) := by
  rw [← plainField_eq_match entries "type_arguments"]
  unfold levelOfDocument
  rfl

end Descriptor
end TypeDisplay
