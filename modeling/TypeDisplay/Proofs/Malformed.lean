import Mathlib.Control.Monad.Basic
import TypeDisplay.Descriptor.Subject
import TypeDisplay.Proofs.Layers

/-!
# Descriptors without a name

A nullable wraps one value type that is no nullable itself.  A nullable that does not is
malformed, and a descriptor has a name exactly when no malformed nullable occurs in it.  Nothing
inside a descriptor is passed over: what stands in the arguments of a malformed wrapper is not
looked at, but then the wrapper itself is the failure.
-/

namespace TypeDisplay
namespace Descriptor

/-- A nullable cannot wrap another nullable or anything that is no value type. -/
def IsUnwrappable (u : Descriptor) : Prop :=
  u.kind = .nullable ∨ u.isValueType = false

/-- A nullable of either form that does not wrap exactly one descriptor that may be wrapped. -/
def IsMalformed : Descriptor → Prop
  | nullable u => u.IsUnwrappable
  | named segments levels valueType wellKnown =>
      isNullableWrapper (named segments levels valueType wellKnown) = true ∧
        match levels with
        | [⟨_, [u]⟩] => u.IsUnwrappable
        | _ => True
  | _ => False

theorem isMalformed_of_arity {segments : List Text} {levels : List (Level Descriptor)}
    {valueType : Option Bool} {wellKnown : Option WellKnown}
    (wrapper : isNullableWrapper (named segments levels valueType wellKnown) = true)
    (other : ∀ name u, levels ≠ [⟨name, [u]⟩]) :
    (named segments levels valueType wellKnown).IsMalformed := by
  refine ⟨wrapper, ?_⟩
  split
  · exact absurd rfl (other _ _)
  · trivial

def HasName (escaping : Bool) (d : Descriptor) : Prop :=
  ∃ text, d.displayName escaping = .ok text

section

variable {escaping : Bool}

theorem hasName_iff_core (d : Descriptor) : HasName escaping d ↔ HasName escaping d.core := by
  rw [HasName, HasName, displayName_eq_core]
  cases d.core.displayName escaping <;> simp [Except.map]

theorem wrappedName_ok_iff {u : Descriptor} :
    (∃ text, wrappedName escaping u = .ok text) ↔ ¬ u.IsUnwrappable ∧ HasName escaping u := by
  simp only [wrappedName_eq_ok_iff, IsUnwrappable, HasName, not_or, Bool.not_eq_false]
  constructor
  · rintro ⟨text, wrappable, inner, named, -⟩
    exact ⟨wrappable, inner, named⟩
  · rintro ⟨wrappable, inner, named⟩
    exact ⟨inner ++ "?", wrappable, inner, named, rfl⟩

theorem argumentNames_ok_iff {arguments : List Descriptor} :
    (∃ texts, argumentNames escaping arguments = .ok texts) ↔
      ∀ a ∈ arguments, HasName escaping a := by
  induction arguments with
  | nil => simp [argumentNames]
  | cons a arguments ih =>
    rw [List.forall_mem_cons, ← ih, argumentNames, HasName, displayName]
    cases nameBefore escaping a [] [] <;> cases argumentNames escaping arguments <;>
      simp [Except.map, Except.bind]

theorem levelNames_ok_iff {levels : List (Level Descriptor)} :
    (∃ texts, levelNames escaping levels = .ok texts) ↔
      ∀ a ∈ argumentsOf levels, HasName escaping a := by
  induction levels with
  | nil => simp [levelNames, argumentsOf]
  | cons level levels ih =>
    obtain ⟨name, arguments⟩ := level
    have split : ∀ a, a ∈ argumentsOf (⟨name, arguments⟩ :: levels) ↔
        a ∈ arguments ∨ a ∈ argumentsOf levels := by
      simp [argumentsOf]
    simp only [split, or_imp, forall_and, ← ih, ← argumentNames_ok_iff, levelNames]
    cases argumentNames escaping arguments <;> cases levelNames escaping levels <;>
      simp [Except.map, Except.bind]

/-- A descriptor has a name when it is not malformed itself and its parts have names. -/
theorem hasName_iff_parts {d : Descriptor} :
    HasName escaping d ↔ ¬ d.IsMalformed ∧ ∀ c ∈ d.parts, HasName escaping c := by
  cases d with
  | primitive _ | void | parameter _ =>
    simp [HasName, displayName, nameBefore, IsMalformed, parts]
  | array e rank m =>
    simp only [IsMalformed, parts, List.mem_singleton, forall_eq, not_false_eq_true, true_and]
    rw [hasName_iff_core, hasName_iff_core e, core]
  | pointer p =>
    simp only [IsMalformed, parts, List.mem_singleton, forall_eq, not_false_eq_true, true_and]
    rw [hasName_iff_core, hasName_iff_core p, core]
  | nullable u =>
    simp only [IsMalformed, parts, List.mem_singleton, forall_eq]
    rw [HasName, displayName_nullable, wrappedName_ok_iff]
  | named segments levels valueType wellKnown =>
    cases wrapper : isNullableWrapper (named segments levels valueType wellKnown) with
    | false =>
      rw [HasName, displayName_named escaping wrapper]
      simp only [IsMalformed, wrapper, parts, ← levelNames_ok_iff]
      cases levelNames escaping levels <;> simp [Except.map]
    | true =>
      by_cases shape : ∃ name u, levels = [⟨name, [u]⟩]
      · obtain ⟨name, u, rfl⟩ := shape
        rw [HasName, displayName_wrapper escaping wrapper, wrappedName_ok_iff]
        simp [IsMalformed, wrapper, parts, argumentsOf]
      · have other : ∀ name u, levels ≠ [⟨name, [u]⟩] :=
          fun name u same ↦ shape ⟨name, u, same⟩
        rw [HasName, displayName_wrapper_arity escaping wrapper other]
        simp [isMalformed_of_arity wrapper other]

theorem hasName_iff {d : Descriptor} :
    HasName escaping d ↔ ∀ s, Occurs s d → ¬ s.IsMalformed := by
  induction d using partsInduction with
  | step d ih =>
    rw [hasName_iff_parts, forall_occurs_iff]
    exact and_congr_right fun _ ↦ forall₂_congr ih

end

/-- Display fails exactly on descriptors with a malformed nullable somewhere inside, whether or
not keywords are marked, and what is handed over as a descriptor fails with this error only. -/
theorem displayName_fails_iff (d : Descriptor) (escaping : Bool) :
    ((∃ e, d.displayName escaping = .error e) ↔ ∃ s, Occurs s d ∧ s.IsMalformed) ∧
      ((∃ text, d.displayName escaping = .ok text) ↔ ¬ ∃ s, Occurs s d ∧ s.IsMalformed) ∧
      ∀ e, (Subject.type d).displayName escaping = .error e →
        ∃ cause, e = .noName cause ∧ d.displayName escaping = .error cause := by
  have named : (∃ text, d.displayName escaping = .ok text) ↔
      ¬ ∃ s, Occurs s d ∧ s.IsMalformed := by
    have unnamed : HasName escaping d ↔ ∀ s, Occurs s d → ¬ s.IsMalformed := hasName_iff
    simpa [HasName] using unnamed
  have failed : (∃ e, d.displayName escaping = .error e) ↔
      ¬ ∃ text, d.displayName escaping = .ok text := by
    cases d.displayName escaping <;> simp
  refine ⟨failed.trans ((not_congr named).trans Classical.not_not), named, ?_⟩
  intro e h
  rw [Subject.displayName] at h
  cases isOutcome : d.displayName escaping with
  | ok text => simp [isOutcome, Except.mapError] at h
  | error cause => exact ⟨cause, by simpa [isOutcome, Except.mapError] using h.symm, rfl⟩

end Descriptor
end TypeDisplay
