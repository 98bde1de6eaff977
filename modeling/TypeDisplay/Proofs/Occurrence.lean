import TypeDisplay.Descriptor

/-!
# Parts of descriptors

The parts of a descriptor are the descriptors directly inside it: the element of an array, the
pointee of a pointer, what a nullable wraps, and the type arguments of a named type.  What holds
of a descriptor as soon as it holds of its parts holds of every descriptor.
-/

namespace TypeDisplay
namespace Descriptor

/-- The descriptors directly inside a descriptor. -/
def parts : Descriptor → List Descriptor
  | primitive _ | void | parameter _ => []
  | named _ levels _ _ => argumentsOf levels
  | array element _ _ => [element]
  | pointer pointee => [pointee]
  | nullable underlying => [underlying]

/-- The first descriptor is found in the second, at any depth. -/
inductive Occurs : Descriptor → Descriptor → Prop where
  | here (d : Descriptor) : Occurs d d
  | inside {s c d : Descriptor} (isPart : c ∈ d.parts) (occurs : Occurs s c) : Occurs s d

theorem mem_argumentsOf {levels : List (Level Descriptor)} {a : Descriptor} :
    a ∈ argumentsOf levels ↔ ∃ level ∈ levels, a ∈ level.arguments := by
  simp [argumentsOf]

theorem sizeOf_lt_of_mem_parts {c d : Descriptor} (h : c ∈ d.parts) : sizeOf c < sizeOf d := by
  cases d with
  | named segments levels valueType wellKnown =>
    obtain ⟨level, isLevel, isArgument⟩ := mem_argumentsOf.1 h
    have inLevels := List.sizeOf_lt_of_mem isLevel
    have inArguments := List.sizeOf_lt_of_mem isArgument
    obtain ⟨name, arguments⟩ := level
    simp only [Level.mk.sizeOf_spec, named.sizeOf_spec] at *
    omega
  | primitive _ | void | parameter _ => simp [parts] at h
  | array _ _ _ | pointer _ | nullable _ =>
    obtain rfl : c = _ := by simpa [parts] using h
    simp +arith

theorem partsInduction {motive : Descriptor → Prop}
    (step : ∀ d, (∀ c ∈ d.parts, motive c) → motive d) (d : Descriptor) : motive d :=
  step d fun c _ ↦ partsInduction step c
termination_by sizeOf d
decreasing_by exact sizeOf_lt_of_mem_parts ‹_›

theorem wellFormedAll_iff {arguments : List Descriptor} :
    WellFormedAll arguments ↔ ∀ a ∈ arguments, WellFormed a := by
  induction arguments with
  | nil => simp [WellFormedAll]
  | cons a arguments ih => simp [WellFormedAll, ih]

theorem wellFormedLevels_iff {levels : List (Level Descriptor)} :
    WellFormedLevels levels ↔ ∀ a ∈ argumentsOf levels, WellFormed a := by
  induction levels with
  | nil => simp [WellFormedLevels, argumentsOf]
  | cons level levels ih =>
    rw [argumentsOf, List.flatMap_cons, List.forall_mem_append, ← argumentsOf, ← ih,
      ← wellFormedAll_iff]
    rfl

theorem WellFormed.of_mem_parts {c d : Descriptor} (h : WellFormed d) (isPart : c ∈ d.parts) :
    WellFormed c := by
  cases d with
  | primitive _ | void | parameter _ => simp [parts] at isPart
  | named segments levels valueType wellKnown => exact wellFormedLevels_iff.1 h.2 c isPart
  | array e rank m =>
    obtain rfl : c = e := by simpa [parts] using isPart
    exact h.2
  | pointer _ | nullable _ =>
    obtain rfl : c = _ := by simpa [parts] using isPart
    exact h

theorem WellFormed.of_occurs {s d : Descriptor} (h : WellFormed d) (occurs : Occurs s d) :
    WellFormed s := by
  induction occurs with
  | here => exact h
  | inside isPart _ ih => exact ih (h.of_mem_parts isPart)

theorem forall_occurs_iff {P : Descriptor → Prop} {d : Descriptor} :
    (∀ s, Occurs s d → P s) ↔ P d ∧ ∀ c ∈ d.parts, ∀ s, Occurs s c → P s := by
  constructor
  · intro h
    exact ⟨h d (.here d), fun c isPart s occurs ↦ h s (.inside isPart occurs)⟩
  · rintro ⟨atRoot, below⟩ s occurs
    cases occurs with
    | here => exact atRoot
    | inside isPart occurs => exact below _ isPart s occurs

end Descriptor
end TypeDisplay
