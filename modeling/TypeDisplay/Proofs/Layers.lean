import TypeDisplay.Descriptor.Name
import TypeDisplay.Proofs.Occurrence
import TypeDisplay.Proofs.Outcome

/-!
# Layers around a core

Peeling the pointer and array layers of a descriptor leaves its core.  The texts of the layers
are collected in groups, outermost group first, and the groups are written in reverse behind the
core; a run of arrays is one group, in which the tokens keep their order.

This gives the rules by which a name grows with each layer.  A pointer adds a star, an array
around anything but an array adds its rank token, and a further array around a run of arrays
puts its token in front of those of the run.
-/

namespace TypeDisplay

namespace Descriptor

section cores

/-! ### Names of cores -/

variable (escaping : Bool)

/-- The name of a nullable, from what it wraps. -/
def wrappedName (u : Descriptor) : Except NameError Text :=
  if u.kind = .nullable then .error .nestedNullable
  else if u.isValueType then (u.displayName escaping).map (· ++ "?")
  else (u.displayName false).bind fun shown ↦ .error (.notValueType shown)

theorem wrappedName_eq_ok_iff {u : Descriptor} {text : Text} :
    wrappedName escaping u = .ok text ↔
      (u.kind ≠ .nullable ∧ u.isValueType = true) ∧
        ∃ inner, u.displayName escaping = .ok inner ∧ text = inner ++ "?" := by
  rw [wrappedName]
  split
  case isTrue isNullable => simp [isNullable]
  case isFalse isOther =>
    split
    case isTrue isValue =>
      cases u.displayName escaping <;> simp [isOther, isValue, Except.map, eq_comm]
    case isFalse isReference =>
      cases u.displayName false <;> simp [isReference, Except.bind]

theorem nameBefore_nullable (u : Descriptor) (run layers : Text) :
    nameBefore escaping (nullable u) run layers =
      (wrappedName escaping u).map (· ++ (run ++ layers)) := by
  rw [nameBefore, wrappedName]
  split
  · rfl
  split
  · rw [except_map_map, displayName]
  · rw [displayName]
    cases nameBefore false u [] [] <;> rfl

variable {segments : List Text} {valueType : Option Bool} {wellKnown : Option WellKnown}

theorem nameBefore_wrapper {name : Text} {u : Descriptor}
    (h : isNullableWrapper (named segments [⟨name, [u]⟩] valueType wellKnown) = true)
    (run layers : Text) :
    nameBefore escaping (named segments [⟨name, [u]⟩] valueType wellKnown) run layers =
      (wrappedName escaping u).map (· ++ (run ++ layers)) := by
  rw [nameBefore, if_pos h, ← nameBefore_nullable, nameBefore]

theorem nameBefore_wrapper_arity {levels : List (Level Descriptor)}
    (h : isNullableWrapper (named segments levels valueType wellKnown) = true)
    (shape : ∀ name u, levels ≠ [⟨name, [u]⟩]) (run layers : Text) :
    nameBefore escaping (named segments levels valueType wellKnown) run layers =
      .error (.arity (argumentsOf levels).length levels.length) := by
  rw [nameBefore.eq_def]
  simp only [h, if_true]

theorem nameBefore_named {levels : List (Level Descriptor)}
    (h : isNullableWrapper (named segments levels valueType wellKnown) = false)
    (run layers : Text) :
    nameBefore escaping (named segments levels valueType wellKnown) run layers =
      (levelNames escaping levels).map fun texts ↦
        namedText escaping segments texts ++ (run ++ layers) := by
  rw [nameBefore.eq_def]
  simp only [h, Bool.false_eq_true, if_false]

theorem nameBefore_of_named (levels : List (Level Descriptor)) (run layers : Text) :
    nameBefore escaping (named segments levels valueType wellKnown) run layers =
      ((named segments levels valueType wellKnown).displayName escaping).map
        (· ++ (run ++ layers)) := by
  cases wrapper : isNullableWrapper (named segments levels valueType wellKnown) with
  | false => simp [displayName, nameBefore_named escaping wrapper, except_map_map]
  | true =>
    by_cases shape : ∃ name u, levels = [⟨name, [u]⟩]
    · obtain ⟨name, u, rfl⟩ := shape
      simp [displayName, nameBefore_wrapper escaping wrapper]
    · have other : ∀ name u, levels ≠ [⟨name, [u]⟩] := fun name u same ↦ shape ⟨name, u, same⟩
      simp [displayName, nameBefore_wrapper_arity escaping wrapper other, Except.map]

theorem displayName_nullable (u : Descriptor) :
    (nullable u).displayName escaping = wrappedName escaping u := by
  rw [displayName, nameBefore_nullable]
  simp

theorem displayName_wrapper {name : Text} {u : Descriptor}
    (h : isNullableWrapper (named segments [⟨name, [u]⟩] valueType wellKnown) = true) :
    (named segments [⟨name, [u]⟩] valueType wellKnown).displayName escaping =
      wrappedName escaping u := by
  rw [displayName, nameBefore_wrapper escaping h]
  simp

theorem displayName_wrapper_arity {levels : List (Level Descriptor)}
    (h : isNullableWrapper (named segments levels valueType wellKnown) = true)
    (shape : ∀ name u, levels ≠ [⟨name, [u]⟩]) :
    (named segments levels valueType wellKnown).displayName escaping =
      .error (.arity (argumentsOf levels).length levels.length) :=
  nameBefore_wrapper_arity escaping h shape [] []

theorem displayName_named {levels : List (Level Descriptor)}
    (h : isNullableWrapper (named segments levels valueType wellKnown) = false) :
    (named segments levels valueType wellKnown).displayName escaping =
      (levelNames escaping levels).map (namedText escaping segments) := by
  rw [displayName, nameBefore_named escaping h]
  simp

end cores

section layers

/-! ### Names of layers -/

/-- The descriptor inside all pointer and array layers. -/
def core : Descriptor → Descriptor
  | pointer p => core p
  | array e _ _ => core e
  | d => d

/-- The texts of the layers, outermost group first.  Arrays that are directly nested belong to
one group; `run` holds the tokens of the group that is being collected. -/
def layerGroups : Descriptor → (run : Text) → List Text
  | pointer p, run => run :: "*" :: layerGroups p []
  | array e rank _, run => layerGroups e (run ++ rankToken rank)
  | _, run => [run]

variable (escaping : Bool)

/-- What is pending when peeling begins stays behind the layers that are peeled. -/
theorem nameBefore_eq_core (d : Descriptor) (run layers : Text) :
    nameBefore escaping d run layers =
      (d.core.displayName escaping).map
        (· ++ ((d.layerGroups run).reverse.flatten ++ layers)) := by
  induction d using partsInduction generalizing run layers with
  | step d ih =>
    cases d with
    | pointer p =>
      rw [nameBefore, ih p (by simp [parts])]
      simp [core, layerGroups]
    | array e rank m =>
      rw [nameBefore, ih e (by simp [parts])]
      simp [core, layerGroups]
    | primitive _ | void | parameter _ =>
      simp [core, layerGroups, displayName, nameBefore, Except.map]
    | nullable u =>
      simp only [core, layerGroups, displayName, nameBefore_nullable, except_map_map]
      simp
    | named segments levels valueType wellKnown =>
      rw [nameBefore_of_named]
      simp [core, layerGroups]

theorem displayName_eq_core (d : Descriptor) :
    d.displayName escaping =
      (d.core.displayName escaping).map (· ++ (d.layerGroups []).reverse.flatten) := by
  rw [displayName, nameBefore_eq_core]
  simp

theorem layerGroups_of_kind_ne_array {d : Descriptor} (h : d.kind ≠ .array) (run : Text) :
    d.layerGroups run = run :: (d.layerGroups []).tail := by
  cases d with
  | array _ _ _ => exact absurd rfl h
  | _ => rfl

/-- Arrays around a descriptor, outermost first, each with its rank and flag. -/
def inArrays (ranks : List (Int × Bool)) (d : Descriptor) : Descriptor :=
  ranks.foldr (fun rank e ↦ array e rank.1 rank.2) d

def rankTokens (ranks : List (Int × Bool)) : Text :=
  ranks.flatMap fun rank ↦ rankToken rank.1

@[simp] theorem core_inArrays (ranks : List (Int × Bool)) (d : Descriptor) :
    (d.inArrays ranks).core = d.core := by
  induction ranks with
  | nil => rfl
  | cons rank ranks ih => exact ih

theorem layerGroups_inArrays (ranks : List (Int × Bool)) (d : Descriptor) (run : Text) :
    (d.inArrays ranks).layerGroups run = d.layerGroups (run ++ rankTokens ranks) := by
  induction ranks generalizing run with
  | nil => simp [inArrays, rankTokens]
  | cons rank ranks ih =>
    have inner := ih (run ++ rankToken rank.1)
    simpa [inArrays, layerGroups, rankTokens] using inner

theorem displayName_pointer (d : Descriptor) :
    (pointer d).displayName escaping = (d.displayName escaping).map (· ++ ("*" : Text)) := by
  rw [displayName_eq_core, displayName_eq_core escaping d, except_map_map]
  simp [core, layerGroups]

/-- The tokens of a run of arrays follow the name of what is inside the run, in their order. -/
theorem displayName_inArrays {d : Descriptor} (h : d.kind ≠ .array)
    (ranks : List (Int × Bool)) :
    (d.inArrays ranks).displayName escaping =
      (d.displayName escaping).map (· ++ rankTokens ranks) := by
  have groups : (d.inArrays ranks).layerGroups [] =
      rankTokens ranks :: (d.layerGroups []).tail := by
    rw [layerGroups_inArrays, layerGroups_of_kind_ne_array h, List.nil_append]
  rw [displayName_eq_core, groups, core_inArrays, displayName_eq_core escaping d,
    layerGroups_of_kind_ne_array h, except_map_map]
  simp

theorem displayName_of_core_error {d : Descriptor} {e : NameError}
    (h : d.core.displayName escaping = .error e) : d.displayName escaping = .error e := by
  rw [displayName_eq_core, h]
  rfl

/-- Peeling layers gives the same name as adding them one by one.  The rank of an array goes in
front of the ranks of the arrays directly inside it, every other layer is written last, and
nothing is written around a core that has no name. -/
theorem displayName_layers :
    (∀ d : Descriptor, d.displayName escaping =
      (d.core.displayName escaping).map (· ++ (d.layerGroups []).reverse.flatten)) ∧
    (∀ d : Descriptor,
      (pointer d).displayName escaping = (d.displayName escaping).map (· ++ ("*" : Text))) ∧
    (∀ (d : Descriptor) (rank : Int) (m : Bool), d.kind ≠ .array →
      (array d rank m).displayName escaping =
        (d.displayName escaping).map (· ++ rankToken rank)) ∧
    (∀ (x : Descriptor) (ranks : List (Int × Bool)) (rank : Int) (m : Bool),
      x.kind ≠ .array →
        (array (x.inArrays ranks) rank m).displayName escaping =
          (x.displayName escaping).map (· ++ (rankToken rank ++ rankTokens ranks))) ∧
    ∀ (d : Descriptor) (e : NameError), d.core.displayName escaping = .error e →
      d.displayName escaping = .error e ∧ (pointer d).displayName escaping = .error e ∧
        ∀ (rank : Int) (m : Bool), (array d rank m).displayName escaping = .error e := by
  refine ⟨displayName_eq_core escaping, displayName_pointer escaping, ?_, ?_, ?_⟩
  · intro d rank m h
    simpa [inArrays, rankTokens] using displayName_inArrays escaping h [(rank, m)]
  · intro x ranks rank m h
    simpa [inArrays, rankTokens] using displayName_inArrays escaping h ((rank, m) :: ranks)
  · intro d e h
    exact ⟨displayName_of_core_error escaping h, displayName_of_core_error escaping h,
      fun rank m ↦ displayName_of_core_error escaping h⟩

/-- A run of arrays around a pointer, and layers around a core without a name. -/
theorem displayName_mixed_layers :
    (pointer (primitive .int)).kind ≠ .array ∧
      (array ((pointer (primitive .int)).inArrays [(2, false)]) 1 false).displayName =
        .ok "int*[][,]" ∧
      (pointer (nullable void)).core.displayName = .error (.notValueType "void") ∧
      (array (pointer (nullable void)) 3 false).displayName =
        .error (.notValueType "void") := by
  obtain ⟨-, -, -, runs, failures⟩ := displayName_layers true
  have notArray : (pointer (primitive .int)).kind ≠ .array := by decide
  have noName : (pointer (nullable void)).core.displayName = .error (.notValueType "void") :=
    rfl
  refine ⟨notArray, ?_, noName, (failures _ _ noName).2.2 3 false⟩
  rw [runs _ _ _ _ notArray]
  rfl

end layers
end Descriptor
end TypeDisplay
