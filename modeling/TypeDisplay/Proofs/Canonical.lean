import TypeDisplay.Proofs.Layers
import TypeDisplay.Proofs.Levels

/-!
# Canonical descriptors

A nullable has two forms: the layer, and a tagged named type with one argument.  The canonical form
of a descriptor has the layer everywhere, and the flags that are not displayed are set alike.  A
tagged type of another shape keeps its tag, because it is a failure of its own.

What surrounds a descriptor only asks for its variant, for whether it is a value type and for its
name, and all three are the same for the canonical form.
-/

namespace TypeDisplay
namespace Descriptor

mutual

def canonical : Descriptor → Descriptor
  | primitive type => primitive type
  | void => void
  | parameter name => parameter name
  | named segments levels valueType wellKnown =>
      match isNullableWrapper (named segments levels valueType wellKnown), levels with
      | true, [⟨_, [u]⟩] => nullable (canonical u)
      | _, levels =>
          named segments (canonicalLevels levels) (some (valueType.getD true)) wellKnown
  | array element rank _ => array (canonical element) rank false
  | pointer pointee => pointer (canonical pointee)
  | nullable underlying => nullable (canonical underlying)

def canonicalLevels : List (Level Descriptor) → List (Level Descriptor)
  | [] => []
  | ⟨name, arguments⟩ :: rest => ⟨name, canonicalAll arguments⟩ :: canonicalLevels rest

def canonicalAll : List Descriptor → List Descriptor
  | [] => []
  | d :: rest => canonical d :: canonicalAll rest

end

theorem canonicalAll_eq_map (arguments : List Descriptor) :
    canonicalAll arguments = arguments.map canonical := by
  induction arguments with
  | nil => rfl
  | cons a arguments ih => rw [canonicalAll, ih, List.map_cons]

theorem canonicalLevels_eq_map (levels : List (Level Descriptor)) :
    canonicalLevels levels = levels.map (Level.map id canonical) := by
  induction levels with
  | nil => rfl
  | cons level levels ih =>
    rw [canonicalLevels, ih, canonicalAll_eq_map, List.map_cons, Level.map, id]

/-! ### Tagged types with one argument -/

/-- A nullable wrapper with one argument on one level. -/
def IsUnaryWrapper (d : Descriptor) : Prop :=
  d.isNullableWrapper = true ∧
    ∃ segments name u valueType wellKnown,
      d = named segments [⟨name, [u]⟩] valueType wellKnown

section named

variable {segments : List Text} {levels : List (Level Descriptor)} {valueType : Option Bool}
  {wellKnown : Option WellKnown}

theorem canonical_wrapper {name : Text} {u : Descriptor}
    (h : isNullableWrapper (named segments [⟨name, [u]⟩] valueType wellKnown) = true) :
    (named segments [⟨name, [u]⟩] valueType wellKnown).canonical = nullable u.canonical := by
  rw [canonical.eq_def]
  simp only [h]

theorem canonical_named (h : ¬ (named segments levels valueType wellKnown).IsUnaryWrapper) :
    (named segments levels valueType wellKnown).canonical =
      named segments (canonicalLevels levels) (some (valueType.getD true)) wellKnown := by
  rw [canonical.eq_def]
  rcases named_cases segments levels valueType wellKnown with
    ordinary | ⟨wrapper, ⟨name, u, rfl⟩ | shape⟩
  · simp only [ordinary]
  · exact absurd ⟨wrapper, segments, name, u, valueType, wellKnown, rfl⟩ h
  · simp only
    split
    · exact absurd rfl (shape _ _)
    · rfl

theorem isParameter_canonical (d : Descriptor) : d.canonical.isParameter = d.isParameter := by
  cases d with
  | named segments levels valueType wellKnown =>
    by_cases unary : (named segments levels valueType wellKnown).IsUnaryWrapper
    · obtain ⟨wrapper, _, _, _, _, _, ⟨⟩⟩ := unary
      rw [canonical_wrapper wrapper]
      rfl
    · rw [canonical_named unary]
      rfl
  | _ => simp [canonical, isParameter]

/-- No parameter is lost or made, so an open definition stays open. -/
theorem isNullableWrapper_canonicalLevels (flag : Option Bool) :
    isNullableWrapper (named segments (canonicalLevels levels) flag wellKnown) =
      isNullableWrapper (named segments levels valueType wellKnown) := by
  have constructed : isConstructed (canonicalLevels levels) = isConstructed levels := by
    rw [canonicalLevels_eq_map]
    exact isConstructed_map fun a _ ↦ isParameter_canonical a
  rcases wellKnown with _ | ⟨⟩
  · rfl
  · exact constructed

end named

/-! ### What surrounds a descriptor -/

theorem isNullableWrapper_canonical {d : Descriptor} (h : ¬ d.IsUnaryWrapper) :
    d.canonical.isNullableWrapper = d.isNullableWrapper := by
  cases d with
  | named segments levels valueType wellKnown =>
    rw [canonical_named h]
    apply isNullableWrapper_canonicalLevels
  | _ => simp [canonical, isNullableWrapper]

theorem kind_canonical (d : Descriptor) : d.canonical.kind = d.kind := by
  cases d with
  | named segments levels valueType wellKnown =>
    by_cases unary : (named segments levels valueType wellKnown).IsUnaryWrapper
    · obtain ⟨wrapper, _, _, _, _, _, ⟨⟩⟩ := unary
      rw [canonical_wrapper wrapper, kind, kind, if_pos wrapper]
    · have same := isNullableWrapper_canonical unary
      rw [canonical_named unary] at same ⊢
      rw [kind, kind, same]
  | _ => simp [canonical, kind]

theorem isValueType_canonical (d : Descriptor) : d.canonical.isValueType = d.isValueType := by
  cases d with
  | named segments levels valueType wellKnown =>
    by_cases unary : (named segments levels valueType wellKnown).IsUnaryWrapper
    · obtain ⟨wrapper, _, _, _, _, _, ⟨⟩⟩ := unary
      rw [canonical_wrapper wrapper, isValueType, isValueType, wrapper, Bool.true_or]
    · have same := isNullableWrapper_canonical unary
      have sameFlag : (some (valueType.getD true) != some false) = (valueType != some false) := by
        rcases valueType with _ | _ | _ <;> rfl
      rw [canonical_named unary] at same ⊢
      rw [isValueType, isValueType, same, sameFlag]
  | _ => simp [canonical, isValueType]

/-! ### Names -/

section names

variable {escaping : Bool}

theorem wrappedName_canonical {u : Descriptor}
    (same : ∀ escaping, u.canonical.displayName escaping = u.displayName escaping) :
    wrappedName escaping u.canonical = wrappedName escaping u := by
  simp only [wrappedName, kind_canonical, isValueType_canonical, same]

theorem argumentNames_canonical {arguments : List Descriptor}
    (same : ∀ a ∈ arguments, a.canonical.displayName escaping = a.displayName escaping) :
    argumentNames escaping (arguments.map canonical) = argumentNames escaping arguments := by
  induction arguments with
  | nil => rfl
  | cons a arguments ih =>
    have first := same a (by simp)
    have others := ih fun b member ↦ same b (by simp [member])
    rw [displayName, displayName] at first
    rw [List.map_cons, argumentNames, argumentNames, first, others]

theorem levelNames_canonical {levels : List (Level Descriptor)}
    (same : ∀ a ∈ argumentsOf levels,
      a.canonical.displayName escaping = a.displayName escaping) :
    levelNames escaping (canonicalLevels levels) = levelNames escaping levels := by
  induction levels with
  | nil => rfl
  | cons level levels ih =>
    obtain ⟨name, arguments⟩ := level
    have own : argumentNames escaping (arguments.map canonical) =
        argumentNames escaping arguments := by
      refine argumentNames_canonical fun a isArgument ↦ same a ?_
      simpa [argumentsOf] using Or.inl isArgument
    have others : levelNames escaping (canonicalLevels levels) = levelNames escaping levels := by
      refine ih fun a isArgument ↦ same a ?_
      simpa [argumentsOf] using Or.inr (mem_argumentsOf.1 isArgument)
    rw [canonicalLevels, canonicalAll_eq_map, levelNames, levelNames, own, others]

theorem length_canonicalLevels (levels : List (Level Descriptor)) :
    (canonicalLevels levels).length = levels.length ∧
      (argumentsOf (canonicalLevels levels)).length = (argumentsOf levels).length := by
  rw [canonicalLevels_eq_map, argumentsOf_map]
  simp

theorem shape_canonicalLevels {levels : List (Level Descriptor)}
    (shape : ∀ name u, levels ≠ [⟨name, [u]⟩]) (name : Text) (u : Descriptor) :
    canonicalLevels levels ≠ [⟨name, [u]⟩] := by
  intro same
  rw [canonicalLevels_eq_map] at same
  obtain ⟨⟨name', arguments⟩, rfl, sameLevel⟩ := List.map_eq_singleton_iff.1 same
  have sameArguments : arguments.map canonical = [u] := congrArg Level.arguments sameLevel
  obtain ⟨v, rfl, -⟩ := List.map_eq_singleton_iff.1 sameArguments
  exact shape name' v rfl

theorem nameBefore_canonical (d : Descriptor) (run layers : Text) :
    nameBefore escaping d.canonical run layers = nameBefore escaping d run layers := by
  induction d using partsInduction generalizing escaping run layers with
  | step d ih =>
    have inside : ∀ c ∈ d.parts, ∀ escaping,
        c.canonical.displayName escaping = c.displayName escaping :=
      fun c isPart escaping ↦ ih c isPart [] []
    cases d with
    | primitive _ | void | parameter _ => rw [canonical]
    | array e rank m =>
      rw [canonical, nameBefore, nameBefore]
      exact ih e (by simp [parts]) _ _
    | pointer p =>
      rw [canonical, nameBefore, nameBefore]
      exact ih p (by simp [parts]) _ _
    | nullable u =>
      have inner : wrappedName escaping u.canonical = wrappedName escaping u :=
        wrappedName_canonical (inside u (by simp [parts]))
      rw [canonical, nameBefore_nullable, nameBefore_nullable, inner]
    | named segments levels valueType wellKnown =>
      rcases named_cases segments levels valueType wellKnown with
        ordinary | ⟨wrapper, ⟨name, u, rfl⟩ | shape⟩
      · have notUnary : ¬ (named segments levels valueType wellKnown).IsUnaryWrapper :=
          fun unary ↦ by simp [unary.1] at ordinary
        have sameWrapper := isNullableWrapper_canonical notUnary
        have inner := levelNames_canonical fun a isPart ↦ inside a isPart escaping
        rw [canonical_named notUnary] at sameWrapper ⊢
        rw [nameBefore_named escaping (sameWrapper.trans ordinary), inner,
          nameBefore_named escaping ordinary]
      · have isPart : u ∈ (named segments [⟨name, [u]⟩] valueType wellKnown).parts := by
          simp [parts, argumentsOf]
        have inner : wrappedName escaping u.canonical = wrappedName escaping u :=
          wrappedName_canonical (inside u isPart)
        rw [canonical_wrapper wrapper, nameBefore_nullable, inner,
          nameBefore_wrapper escaping wrapper]
      · have notUnary : ¬ (named segments levels valueType wellKnown).IsUnaryWrapper := by
          rintro ⟨-, _, name, u, _, _, ⟨⟩⟩
          exact shape name u rfl
        have sameWrapper := isNullableWrapper_canonical notUnary
        obtain ⟨sameLevels, sameArguments⟩ := length_canonicalLevels levels
        rw [canonical_named notUnary] at sameWrapper ⊢
        rw [nameBefore_wrapper_arity escaping (sameWrapper.trans wrapper)
          (shape_canonicalLevels shape), sameLevels, sameArguments,
          nameBefore_wrapper_arity escaping wrapper shape]

end names

/-- The canonical form has the same name or the same failure, and what surrounds a descriptor takes
both for the same.  Only a tagged type with one argument is no tagged type in its canonical
form. -/
theorem displayName_canonical (d : Descriptor) :
    (∀ escaping, d.canonical.displayName escaping = d.displayName escaping) ∧
      d.canonical.kind = d.kind ∧ d.canonical.isValueType = d.isValueType ∧
      (¬ d.IsUnaryWrapper → d.canonical.isNullableWrapper = d.isNullableWrapper) :=
  ⟨fun _ ↦ nameBefore_canonical d [] [], kind_canonical d, isValueType_canonical d,
    isNullableWrapper_canonical⟩

/-- An array with a flag of a box around a tagged type. -/
def taggedInBox : Descriptor :=
  array (named ["N"] [⟨"Box", [named ["System"] [⟨"Nullable", [primitive .int]⟩] none
    (some .nullable)]⟩] none none) 2 true

theorem canonical_taggedInBox :
    taggedInBox.canonical =
        array (named ["N"] [⟨"Box", [nullable (primitive .int)]⟩] (some true) none) 2 false ∧
      taggedInBox.canonical.displayName true = .ok "N.Box<int?>[,]" ∧
      ¬ taggedInBox.IsUnaryWrapper ∧ taggedInBox.canonical.isNullableWrapper = false := by
  obtain ⟨sameName, -, -, sameWrapper⟩ := displayName_canonical taggedInBox
  have notUnary : ¬ taggedInBox.IsUnaryWrapper := by
    rintro ⟨-, _, _, _, _, _, same⟩
    cases same
  exact ⟨rfl, (sameName true).trans rfl, notUnary, (sameWrapper notUnary).trans rfl⟩

end Descriptor
end TypeDisplay
