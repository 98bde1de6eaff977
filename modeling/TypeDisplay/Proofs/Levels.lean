import TypeDisplay.Descriptor.Kind
import TypeDisplay.Proofs.Occurrence

/-!
# Changed levels

A change of a descriptor reaches the names and the arguments of its levels.  Whether a chain of
levels is constructed depends on its arguments alone, so a change that makes no parameters and
loses none does not matter for it.
-/

namespace TypeDisplay

namespace Level

variable {α β : Type}

/-- The level with another name and other arguments. -/
def map (f : Text → Text) (g : α → β) (level : Level α) : Level β :=
  ⟨f level.name, level.arguments.map g⟩

end Level

namespace Descriptor

section maps

variable {f : Text → Text} {g : Descriptor → Descriptor}

theorem argumentsOf_map (levels : List (Level Descriptor)) :
    argumentsOf (levels.map (Level.map f g)) = (argumentsOf levels).map g := by
  simp [argumentsOf, Level.map, List.flatMap_map, List.map_flatMap]

theorem isConstructed_iff {levels : List (Level Descriptor)} :
    isConstructed levels = true ↔ ∀ a ∈ argumentsOf levels, a.isParameter = false := by
  simp only [isConstructed, List.all_eq_true, Bool.not_eq_true', mem_argumentsOf]
  constructor
  · rintro h a ⟨level, isLevel, isArgument⟩
    exact h level isLevel a isArgument
  · intro h level isLevel a isArgument
    exact h a ⟨level, isLevel, isArgument⟩

theorem isConstructed_map {levels : List (Level Descriptor)}
    (same : ∀ a ∈ argumentsOf levels, (g a).isParameter = a.isParameter) :
    isConstructed (levels.map (Level.map f g)) = isConstructed levels := by
  rw [Bool.eq_iff_iff, isConstructed_iff, isConstructed_iff, argumentsOf_map]
  constructor
  · intro h a isArgument
    rw [← same a isArgument]
    exact h (g a) (List.mem_map_of_mem isArgument)
  · intro h b isImage
    obtain ⟨a, isArgument, rfl⟩ := List.mem_map.1 isImage
    rw [same a isArgument]
    exact h a isArgument

end maps

/-- A tagged named type is ordinary when one of its arguments is a parameter.  Otherwise it wraps
one argument on one level, or it has the wrong shape. -/
theorem named_cases (segments : List Text) (levels : List (Level Descriptor))
    (valueType : Option Bool) (wellKnown : Option WellKnown) :
    isNullableWrapper (named segments levels valueType wellKnown) = false ∨
      isNullableWrapper (named segments levels valueType wellKnown) = true ∧
        ((∃ name u, levels = [⟨name, [u]⟩]) ∨ ∀ name u, levels ≠ [⟨name, [u]⟩]) := by
  cases wrapper : isNullableWrapper (named segments levels valueType wellKnown) with
  | false => exact .inl rfl
  | true =>
    by_cases unary : ∃ name u, levels = [⟨name, [u]⟩]
    · exact .inr ⟨rfl, .inl unary⟩
    · exact .inr ⟨rfl, .inr fun name u same ↦ unary ⟨name, u, same⟩⟩

end Descriptor
end TypeDisplay
