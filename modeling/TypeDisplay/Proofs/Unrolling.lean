import Mathlib.Data.List.Perm.Subperm
import TypeDisplay.Proofs.DocumentShape
import TypeDisplay.Validation.Endless

/-!
# Following links

A linked document that expands to a document which fits is seen by validation as this expansion.
Along the links no mapping is entered twice, since the expansion would have elided it, and the
numbers of the values around a place are different, so fuel for as many values as there are is
left at every place.
-/

namespace TypeDisplay
namespace Linked

open Document (Fits text variant?_label)

variable {l : Linked} {fuel : Nat} {around : List Nat} {number : Nat}

/-- The values around a place are different from each other, and there is fuel for all others. -/
structure IsPlace (l : Linked) (fuel : Nat) (around : List Nat) : Prop where
  fuel_eq : fuel + around.length = l.values.size + 1
  nodup : around.Nodup
  isNumber : ∀ n ∈ around, n < l.values.size

theorem isPlace_outermost (l : Linked) : l.IsPlace (l.values.size + 1) [] :=
  ⟨rfl, List.nodup_nil, by simp⟩

theorem IsPlace.exists_succ (h : l.IsPlace fuel around) : ∃ less, fuel = less + 1 := by
  have inRange : around ⊆ List.range l.values.size :=
    fun n member ↦ List.mem_range.2 (h.isNumber n member)
  have bound := (List.subperm_of_subset h.nodup inRange).length_le
  have total := h.fuel_eq
  rw [List.length_range] at bound
  exact ⟨fuel - 1, by omega⟩

theorem lt_size_of_value (h : l.value number ≠ .scalar .null) : number < l.values.size := by
  rw [value] at h
  by_contra outside
  rw [Array.getElem?_eq_none (by omega)] at h
  exact h rfl

theorem IsPlace.enter (h : l.IsPlace (fuel + 1) around) (isNew : number ∉ around)
    (isValue : l.value number ≠ .scalar .null) : l.IsPlace fuel (number :: around) := by
  refine ⟨?_, List.nodup_cons.2 ⟨isNew, h.nodup⟩, ?_⟩
  · have total := h.fuel_eq
    simp only [List.length_cons]
    omega
  · intro n member
    rcases List.mem_cons.1 member with rfl | isAround
    · exact lt_size_of_value isValue
    · exact h.isNumber n isAround

/-! ### What is expanded -/

theorem value_of_expanded_scalar (h : l.IsPlace fuel around) {s : Scalar}
    (isScalar : l.expanded fuel around number = .scalar s) : l.value number = .scalar s := by
  obtain ⟨less, rfl⟩ := h.exists_succ
  rw [expanded] at isScalar
  cases isValue : l.value number <;> simp only [isValue] at isScalar
  case scalar t => rw [Document.scalar.inj isScalar]
  case set => cases isScalar
  all_goals split at isScalar <;> cases isScalar

theorem links_of_expanded_mapping (h : l.IsPlace fuel around) {entries : List Document.Entry}
    (isMapping : l.expanded fuel around number = .mapping entries) :
    ∃ less links, fuel = less + 1 ∧ l.value number = .mapping links ∧ number ∉ around ∧
      l.IsPlace less (number :: around) ∧
        entries = links.map fun (key, n) ↦ (key, l.expanded less (number :: around) n) := by
  obtain ⟨less, rfl⟩ := h.exists_succ
  rw [expanded] at isMapping
  cases isValue : l.value number <;> simp only [isValue] at isMapping
  case mapping links =>
    split at isMapping
    · cases isMapping
    · rename_i isNew
      have notAround : number ∉ around := by simpa using isNew
      refine ⟨less, links, rfl, rfl, notAround, h.enter notAround (by simp [isValue]), ?_⟩
      exact (Document.mapping.inj isMapping).symm
  case scalar | set => cases isMapping
  all_goals split at isMapping <;> cases isMapping

/-- Only pairs are expanded to lists besides lists, and what they hold is a list of pairs. -/
theorem links_of_expanded_list (h : l.IsPlace fuel around) {items : List Document}
    (isList : l.expanded fuel around number = .list items)
    (noPair : ∀ a b, Document.pair a b ∉ items) :
    (l.value number = .pairs [] ∧ items = []) ∨
      ∃ less links, fuel = less + 1 ∧ l.value number = .list links ∧
        l.IsPlace less (number :: around) ∧
          items = links.map (l.expanded less (number :: around)) := by
  obtain ⟨less, rfl⟩ := h.exists_succ
  rw [expanded] at isList
  cases isValue : l.value number <;> simp only [isValue] at isList
  case list links =>
    split at isList
    · cases isList
    · rename_i isNew
      have notAround : number ∉ around := by simpa using isNew
      refine .inr ⟨less, links, rfl, rfl, h.enter notAround (by simp [isValue]), ?_⟩
      exact (Document.list.inj isList).symm
  case pairs links =>
    split at isList
    · cases isList
    · obtain rfl := Document.list.inj isList
      cases links with
      | nil => exact .inl ⟨rfl, rfl⟩
      | cons link links => exact absurd (List.mem_cons_self ..) (noPair _ _)
  case mapping => split at isList <;> cases isList
  all_goals cases isList

/-! ### What is followed -/

/-- Following links gives this document wherever the value expands to it. -/
def Follows (l : Linked) (expected : Expected) (x : Document) : Prop :=
  ∀ fuel around, l.IsPlace fuel around → ∀ number, l.expanded fuel around number = x →
    ∀ steps (surroundings : Surroundings), fuel ≤ steps →
      (∀ visit ∈ surroundings.visits, visit.value ∈ around) →
        l.follow steps expected surroundings number = x

theorem follows_scalar (l : Linked) (expected : Expected) (s : Scalar) :
    l.Follows expected (.scalar s) := by
  intro fuel around place number isScalar steps surroundings enough _
  obtain ⟨less, rfl⟩ := place.exists_succ
  obtain ⟨steps, rfl⟩ : ∃ k, steps = k + 1 := ⟨steps - 1, by omega⟩
  have isValue := value_of_expanded_scalar place isScalar
  have isOutline : l.outline number = .scalar s := by simp [outline, isValue]
  have isExpansion : l.expansion number = .scalar s := by simp [expansion, expanded, isValue]
  cases expected <;> simp [follow, isValue, isOutline, isExpansion]

theorem follows_list {expected : Expected} {items : List Document}
    (isList : expected ≠ .shown ∧ expected ≠ .outline)
    (noPair : ∀ a b, Document.pair a b ∉ items)
    (each : ∀ x ∈ items, l.Follows expected.ofItem x) : l.Follows expected (.list items) := by
  intro fuel around place number isItems steps surroundings enough visited
  rcases links_of_expanded_list place isItems noPair with
    ⟨isValue, rfl⟩ | ⟨less, links, rfl, isValue, inner, rfl⟩
  -- No pairs and no items look the same.
  · obtain ⟨less, rfl⟩ := place.exists_succ
    obtain ⟨steps, rfl⟩ : ∃ k, steps = k + 1 := ⟨steps - 1, by omega⟩
    cases expected <;> simp_all [follow]
  · obtain ⟨steps, rfl⟩ : ∃ k, steps = k + 1 := ⟨steps - 1, by omega⟩
    have followed : ∀ n ∈ links, l.follow steps expected.ofItem surroundings n =
        l.expanded less (number :: around) n := by
      intro n member
      refine each _ (List.mem_map_of_mem member) less _ inner n rfl steps surroundings (by omega) ?_
      exact fun visit isVisit ↦ List.mem_cons_of_mem _ (visited visit isVisit)
    have sameItems := List.map_congr_left followed
    cases expected <;> simp_all [follow]

/-- The value of a key is where its link leads. -/
theorem field?_map (links : List (Scalar × Nat)) (expand : Nat → Document) (name : String) :
    Document.field? (links.map fun (key, n) ↦ (key, expand n)) name =
      (field? links name).map expand := by
  simp [Document.field?, field?, List.find?_map, Function.comp_def]

/-- The label of a variant tells how a mapping is entered. -/
theorem model?_of_label {links : List (Scalar × Nat)} (place : l.IsPlace fuel around) {kind : Kind}
    (label : Document.field? (links.map fun (key, n) ↦ (key, l.expanded fuel around n)) "kind" =
      some (text kind.label)) :
    l.model? .descriptor links = (Model.ofKind? kind).map fun model ↦ (model, some kind.label) := by
  rw [field?_map] at label
  obtain ⟨n, found, isLabel⟩ := Option.map_eq_some_iff.1 label
  have isOutline : l.outline n = text kind.label := by
    simp [outline, value_of_expanded_scalar place isLabel, text]
  simp [model?, found, isOutline, variant?_label]

theorem follows_of_no_model {entries : List Document.Entry}
    (noModel : ∀ fuel around links, l.IsPlace fuel around →
      entries = links.map (fun (key, n) ↦ (key, l.expanded fuel around n)) →
        l.model? .descriptor links = none)
    (each : ∀ key value, (key, value) ∈ entries → ∃ s, value = .scalar s) :
    l.Follows .descriptor (.mapping entries) := by
  intro fuel around place number isMapping steps surroundings enough visited
  obtain ⟨less, links, rfl, isValue, isNew, inner, rfl⟩ :=
    links_of_expanded_mapping place isMapping
  obtain ⟨steps, rfl⟩ : ∃ k, steps = k + 1 := ⟨steps - 1, by omega⟩
  have followed : ∀ link ∈ links,
      (link.1, l.follow steps (.under none link.1) surroundings link.2) =
        (link.1, l.expanded less (number :: around) link.2) := by
    rintro ⟨key, n⟩ member
    obtain ⟨s, isScalar⟩ := each key _ (List.mem_map_of_mem member)
    have inside : ∀ visit ∈ surroundings.visits, visit.value ∈ number :: around :=
      fun visit isVisit ↦ List.mem_cons_of_mem _ (visited visit isVisit)
    rw [l.follows_scalar _ s less _ inner n isScalar steps surroundings (by omega) inside,
      ← isScalar]
  simp only [follow, isValue, noModel less _ links inner rfl]
  rw [List.map_congr_left followed]

theorem follows_of_model {expected : Expected} {entries : List Document.Entry} {model : Model}
    (label : Option String) (isEntered : expected ≠ .shown ∧ expected ≠ .outline)
    (isModel : ∀ fuel around links, l.IsPlace fuel around →
      entries = links.map (fun (key, n) ↦ (key, l.expanded fuel around n)) →
        l.model? expected links = some (model, label))
    (each : ∀ key value, (key, value) ∈ entries → l.Follows (.under (some model) key) value) :
    l.Follows expected (.mapping entries) := by
  intro fuel around place number isMapping steps surroundings enough visited
  obtain ⟨less, links, rfl, isValue, isNew, inner, rfl⟩ :=
    links_of_expanded_mapping place isMapping
  obtain ⟨steps, rfl⟩ : ∃ k, steps = k + 1 := ⟨steps - 1, by omega⟩
  -- A visit of this mapping would be around it, and its number is not.
  have isFirst : surroundings.visit number model ∉ surroundings.visits :=
    fun isVisit ↦ isNew (visited _ isVisit)
  have inside : ∀ visit ∈ (surroundings.enter (surroundings.visit number model)).visits,
      visit.value ∈ number :: around := by
    intro visit isVisit
    rcases List.mem_cons.1 isVisit with rfl | isOuter
    · exact List.mem_cons_self ..
    · exact List.mem_cons_of_mem _ (visited visit isOuter)
  have followed : ∀ link ∈ links,
      (link.1, l.follow steps (.under (some model) link.1)
        (surroundings.enter (surroundings.visit number model)) link.2) =
          (link.1, l.expanded less (number :: around) link.2) := by
    rintro ⟨key, n⟩ member
    rw [each key _ (List.mem_map_of_mem member) less _ inner n rfl steps _ (by omega) inside]
  have found := isModel less _ links inner rfl
  cases expected with
  | shown => exact absurd rfl isEntered.1
  | outline => exact absurd rfl isEntered.2
  | _ =>
    simp only [follow, isValue, found, List.contains_eq_mem, decide_eq_true_eq, if_neg isFirst]
    rw [List.map_congr_left followed]

/-- A document that fits is not cut where it is followed. -/
theorem follows_of_fits {expected : Expected} {room : Room} {x : Document}
    (h : Fits expected room x) : l.Follows expected x := by
  induction h with
  | scalar s _ => exact l.follows_scalar _ s
  | segments names =>
    refine follows_list (by simp) (by simp [text]) fun x member ↦ ?_
    obtain ⟨name, -, rfl⟩ := List.mem_map.1 member
    exact l.follows_scalar _ _
  | levels each ih => exact follows_list (by simp) (fun _ _ member ↦ nomatch each _ member) ih
  | arguments _ each ih => exact follows_list (by simp) (fun _ _ member ↦ nomatch each _ member) ih
  | level _ _ ih => exact follows_of_model none (by simp) (fun _ _ _ _ _ ↦ rfl) ih
  | leaf label isLeaf _ each =>
    refine follows_of_no_model ?_ each
    rintro fuel around links place rfl
    rw [model?_of_label place label, isLeaf]
    rfl
  | @model _ _ kind _ label isModel _ _ ih =>
    refine follows_of_model (some kind.label) (by simp) ?_ ih
    rintro fuel around links place rfl
    rw [model?_of_label place label, isModel]
    rfl

/-- Validation sees the expansion of a document when that fits. -/
theorem unrolled_eq_expansion {room : Room} (h : Fits .descriptor room (l.expansion l.root)) :
    l.unrolled = l.expansion l.root :=
  follows_of_fits h _ [] l.isPlace_outermost l.root rfl _ .outermost (by omega)
    (by simp [Surroundings.outermost])

end Linked
end TypeDisplay
