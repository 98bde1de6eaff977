import Mathlib.Data.List.Nodup
import TypeDisplay.Descriptor.Document
import TypeDisplay.Yaml.Written

/-!
# Documents up to the order of entries

Writing puts the entries of every mapping in the order of their keys, so what is read again holds
the same and may have its entries in another order.  Two documents differ in nothing else when
they are the same after sorting.

The mappings in the document of a descriptor are records: every field is there once.  A mapping
that is a record up to the order still has each field under its name.
-/

namespace TypeDisplay
namespace Document

open Yaml.Written (sorted sortedItems sortedEntries)

/-- The documents differ in nothing but the order of entries. -/
def Reordered (a b : Document) : Prop := sorted a = sorted b

theorem sortedItems_eq_map (items : List Document) : sortedItems items = items.map sorted := by
  induction items with
  | nil => rfl
  | cons item items ih => simp [sortedItems, ih]

theorem sortedEntries_eq_map (entries : List Entry) :
    sortedEntries entries = entries.map fun entry ↦ (entry.1, sorted entry.2) := by
  induction entries with
  | nil => rfl
  | cons entry entries ih => simp [sortedEntries, ih]

theorem Reordered.eq_scalar {s : Scalar} {x : Document} (h : Reordered (.scalar s) x) :
    x = .scalar s := by
  cases x with
  | scalar t => simpa [Reordered, sorted, eq_comm] using h
  | _ => simp [Reordered, sorted] at h

theorem Reordered.eq_list {items : List Document} {x : Document} (h : Reordered (.list items) x) :
    ∃ others, x = .list others ∧ items.map sorted = others.map sorted := by
  cases x with
  | list others =>
    refine ⟨others, rfl, ?_⟩
    simpa [Reordered, sorted, sortedItems_eq_map] using h
  | _ => simp [Reordered, sorted] at h

theorem exists_reordered_of_mem {items others : List Document}
    (same : items.map sorted = others.map sorted) {x : Document} (h : x ∈ others) :
    ∃ item ∈ items, Reordered item x := by
  have inSorted : sorted x ∈ others.map sorted := List.mem_map_of_mem h
  rw [← same] at inSorted
  exact List.mem_map.1 inSorted

/-- The entries are the fields in some order, with values that differ from those of the fields in
the order of entries only. -/
def IsRecord (fields : List (String × Document)) (entries : List Entry) : Prop :=
  (fields.map fun field ↦ (Scalar.text field.1, sorted field.2)).Perm
    (entries.map fun entry ↦ (entry.1, sorted entry.2))

theorem Reordered.eq_record {fields : List (String × Document)} {x : Document}
    (h : Reordered (Descriptor.record fields) x) :
    ∃ entries, x = .mapping entries ∧ IsRecord fields entries := by
  cases x with
  | mapping entries =>
    refine ⟨entries, rfl, ?_⟩
    have same := Document.mapping.inj h
    have perm := List.mergeSort_perm (sortedEntries (fields.map fun field ↦
      (Scalar.text field.1, field.2))) fun a b ↦
        decide (Yaml.Written.keyWord a.1 ≤ Yaml.Written.keyWord b.1)
    rw [same] at perm
    have reordered := perm.symm.trans (List.mergeSort_perm _ _)
    simpa [IsRecord, sortedEntries_eq_map, Function.comp_def] using reordered
  | _ => cases h

namespace IsRecord

variable {fields : List (String × Document)} {entries : List Entry}

theorem of_mem (h : IsRecord fields entries) {key : Scalar} {value : Document}
    (member : (key, value) ∈ entries) :
    ∃ name d, (name, d) ∈ fields ∧ key = .text (.ofString name) ∧ Reordered d value := by
  have inEntries : (key, sorted value) ∈ entries.map fun entry ↦ (entry.1, sorted entry.2) :=
    List.mem_map_of_mem member
  obtain ⟨⟨name, d⟩, isField, same⟩ := List.mem_map.1 (h.mem_iff.2 inEntries)
  obtain ⟨sameKey, sameValue⟩ := Prod.mk.inj same
  exact ⟨name, d, isField, sameKey.symm, sameValue⟩

theorem field?_eq (h : IsRecord fields entries) (distinct : (fields.map Prod.fst).Nodup)
    {name : String} {d : Document} (isField : (name, d) ∈ fields) :
    ∃ value, field? entries name = some value ∧ Reordered d value := by
  have inFields : (Scalar.text (.ofString name), sorted d) ∈
      fields.map fun field ↦ (Scalar.text field.1, sorted field.2) :=
    List.mem_map_of_mem isField
  obtain ⟨entry, isEntry, same⟩ := List.mem_map.1 (h.mem_iff.1 inFields)
  have hasKey : entry.1 = .text (.ofString name) := (Prod.mk.inj same).1
  cases found : field? entries name with
  | none =>
    have absent : ∀ entry ∈ entries, entry.1 ≠ .text (.ofString name) := by
      simpa [field?] using found
    exact absurd hasKey (absent entry isEntry)
  | some value =>
    refine ⟨value, rfl, ?_⟩
    obtain ⟨name', d', isField', sameKey, sameValue⟩ := h.of_mem (field?_mem found)
    have sameName : name = name' := Text.ofString_injective (Scalar.text.inj sameKey)
    have sameField := List.inj_on_of_nodup_map distinct isField isField' sameName
    obtain rfl : d = d' := (Prod.mk.inj sameField).2
    exact sameValue

end IsRecord
end Document
end TypeDisplay
