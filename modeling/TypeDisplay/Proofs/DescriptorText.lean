import TypeDisplay.Proofs.DocumentShape
import TypeDisplay.Proofs.WrittenText

/-!
# Texts of descriptors

The document of a descriptor holds what needs no more than printable ASCII and line feeds to be
written, so that is what the text of a descriptor consists of.
-/

namespace TypeDisplay
namespace Descriptor

open Yaml.Written (IsBasic AreShown)

theorem isBasic_record {fields : List (String × Document)}
    (each : ∀ name content, (name, content) ∈ fields → AreShown name.toList ∧ IsBasic content) :
    IsBasic (record fields) := by
  have source : ∀ key value, (key, value) ∈ fields.map (fun field ↦
      (Scalar.text field.1, field.2)) →
        ∃ name, (name, value) ∈ fields ∧ key = .text (.ofString name) := by
    intro key value member
    obtain ⟨⟨name, content⟩, isField, same⟩ := List.mem_map.1 member
    obtain ⟨rfl, rfl⟩ := Prod.mk.inj same
    exact ⟨name, isField, rfl⟩
  refine .mapping ?_ ?_
  · intro key value member
    obtain ⟨name, isField, rfl⟩ := source key value member
    have isWord : Yaml.Written.key (.text (.ofString name)) = name.toList := by
      simp [Yaml.Written.key, Yaml.Written.keyWord, Scalar.string?, Text.string?_ofString]
    rw [isWord]
    exact (each name value isField).1
  · intro key value member
    obtain ⟨name, isField, rfl⟩ := source key value member
    exact (each name value isField).2

theorem areShown_fieldNames (kind : Kind) :
    ∀ name ∈ "kind" :: fieldNames kind, AreShown name.toList := by
  cases kind <;> decide

theorem isBasic_arguments {arguments : List Descriptor}
    (each : ∀ a ∈ arguments, IsBasic a.toDocument) :
    IsBasic (.list (argumentDocuments arguments)) := by
  rw [argumentDocuments_eq_map]
  refine .list fun x member ↦ ?_
  obtain ⟨a, isArgument, rfl⟩ := List.mem_map.1 member
  exact each a isArgument

theorem isBasic_levels {levels : List (Level Descriptor)}
    (each : ∀ a ∈ argumentsOf levels, IsBasic a.toDocument) :
    IsBasic (.list (levelDocuments levels)) := by
  rw [levelDocuments_eq_map]
  refine .list fun x member ↦ ?_
  obtain ⟨level, isLevel, rfl⟩ := List.mem_map.1 member
  have words : AreShown "name".toList ∧ AreShown "type_arguments".toList := by decide
  refine isBasic_record fun name content isField ↦ ?_
  simp only [levelFields, List.mem_cons, Prod.mk.injEq, List.not_mem_nil, or_false] at isField
  obtain ⟨rfl, rfl⟩ | ⟨rfl, rfl⟩ := isField
  · exact ⟨words.1, .text level.name⟩
  · refine ⟨words.2, isBasic_arguments fun a member ↦ ?_⟩
    exact each a (mem_argumentsOf.2 ⟨level, isLevel, member⟩)

theorem isBasic_flagDocument (flag : Option Bool) : IsBasic (flagDocument flag) := by
  cases flag with
  | none => exact .null
  | some flag => exact .bool flag

theorem isBasic_wellKnownDocument (wellKnown : Option WellKnown) :
    IsBasic (wellKnownDocument wellKnown) := by
  cases wellKnown with
  | none => exact .null
  | some tag => exact .text _

theorem isBasic_of_mem_ownFields {d : Descriptor}
    (each : ∀ c ∈ d.parts, IsBasic c.toDocument) {name : String} {content : Document}
    (isField : (name, content) ∈ d.ownFields) : IsBasic content := by
  cases d with
  | primitive _ | parameter _ =>
    obtain ⟨-, rfl⟩ := Prod.mk.inj (List.mem_singleton.1 isField)
    exact .text _
  | void => cases isField
  | named segments levels valueType wellKnown =>
    simp only [ownFields, List.mem_cons, Prod.mk.injEq, List.not_mem_nil, or_false] at isField
    obtain ⟨-, rfl⟩ | ⟨-, rfl⟩ | ⟨-, rfl⟩ | ⟨-, rfl⟩ := isField
    · refine .list fun x member ↦ ?_
      obtain ⟨segment, -, rfl⟩ := List.mem_map.1 member
      exact .text segment
    · exact isBasic_levels each
    · exact isBasic_flagDocument valueType
    · exact isBasic_wellKnownDocument wellKnown
  | array e rank m =>
    simp only [ownFields, List.mem_cons, Prod.mk.injEq, List.not_mem_nil, or_false] at isField
    obtain ⟨-, rfl⟩ | ⟨-, rfl⟩ | ⟨-, rfl⟩ := isField
    · exact each e (by simp [parts])
    · exact .int rank
    · exact .bool m
  | pointer p =>
    obtain ⟨-, rfl⟩ := Prod.mk.inj (List.mem_singleton.1 isField)
    exact each p (by simp [parts])
  | nullable u =>
    obtain ⟨-, rfl⟩ := Prod.mk.inj (List.mem_singleton.1 isField)
    exact each u (by simp [parts])

/-- The document of a descriptor is made of records, lists, texts, integers, flags and null. -/
theorem isBasic_toDocument (d : Descriptor) : IsBasic d.toDocument := by
  induction d using partsInduction with
  | step d ih =>
    rw [toDocument_eq_record]
    refine isBasic_record fun name content isField ↦ ⟨?_, ?_⟩
    · refine areShown_fieldNames d.variant name ?_
      rw [← map_fst_allFields]
      exact List.mem_map_of_mem isField
    · rcases List.mem_cons.1 isField with isKind | isOwn
      · rw [(Prod.mk.inj isKind).2]
        exact .text _
      · exact isBasic_of_mem_ownFields ih isOwn

/-- Only printable ASCII and line feeds are printed. -/
theorem areShown_write_toDocument (d : Descriptor) :
    AreShown (Yaml.write d.toDocument) := by
  have basic := d.isBasic_toDocument
  rw [toDocument_eq_record] at basic ⊢
  exact Yaml.areShown_write basic

end Descriptor
end TypeDisplay
