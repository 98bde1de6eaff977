import TypeDisplay.Proofs.Malformed
import TypeDisplay.Proofs.Skeleton
import TypeDisplay.Proofs.Words

/-!
# Readable skeletons

The skeletons that can be read off a text have names without special characters, positive ranks,
and nullables around a primitive, `void` or a path only.  Every well-formed descriptor with plain
identifiers that has a name has such a skeleton.  A skeleton is given by its core and its layers.
-/

namespace TypeDisplay
namespace Skeleton

open Descriptor (Layer)
open Identifier (IsPlain)

/-! ### Built-in types -/

def keyword? : Skeleton → Option String
  | primitive type => some type.keyword
  | void => some "void"
  | _ => none

theorem keyword?_inj {s t : Skeleton} {word : String} (hs : s.keyword? = some word)
    (ht : t.keyword? = some word) : s = t := by
  have notVoid : ∀ p : Primitive, p.keyword ≠ "void" := by
    intro p
    cases p <;> decide
  cases s with
  | primitive p =>
    cases t with
    | primitive q =>
      rw [Primitive.keyword_injective (Option.some.inj (hs.trans ht.symm))]
    | void => exact absurd (Option.some.inj (hs.trans ht.symm)) (notVoid p)
    | _ => cases ht
  | void =>
    cases t with
    | primitive q => exact absurd (Option.some.inj (ht.trans hs.symm)) (notVoid q)
    | void => rfl
    | _ => cases ht
  | _ => cases hs

theorem keyword?_spec {s : Skeleton} {word : String} (h : s.keyword? = some word) :
    s.coreText = word ∧ word ∈ Keyword.marked ∧ IsPlain word := by
  cases s with
  | primitive p =>
    obtain rfl : p.keyword = word := Option.some.inj h
    refine ⟨rfl, ?_⟩
    cases p <;> decide +kernel
  | void =>
    obtain rfl : "void" = word := Option.some.inj h
    exact ⟨rfl, by decide +kernel⟩
  | _ => cases h

/-! ### Layers -/

/-- Reads layers in the order in which they are written; `run` holds the ranks since the last
star. -/
def wrapped (s : Skeleton) (run : List Int) : List Layer → Skeleton
  | [] => run.foldr (fun rank e ↦ array e rank) s
  | .array rank :: rest => wrapped s (run ++ [rank]) rest
  | .pointer :: rest => wrapped (pointer (run.foldr (fun rank e ↦ array e rank) s)) [] rest

theorem wrapped_arrays (s : Skeleton) (before run : List Int) (rest : List Layer) :
    wrapped s before (run.map .array ++ rest) = wrapped s (before ++ run) rest := by
  induction run generalizing before with
  | nil => simp
  | cons rank run ih => simpa [wrapped] using ih (before ++ [rank])

theorem wrapped_core (s : Skeleton) (run : List Int) (rest : List Layer)
    (ends : ∀ rank, rest.head? ≠ some (.array rank)) :
    wrapped s.core [] (s.layers (run.map .array) ++ rest) = wrapped s run rest := by
  match s with
  | array e rank =>
    have inner := wrapped_core e (run ++ [rank]) rest ends
    rw [List.map_append] at inner
    refine inner.trans ?_
    -- A further array would belong to the run and not to what is around it.
    cases rest with
    | nil => simp [wrapped]
    | cons layer rest =>
      cases layer with
      | pointer => simp [wrapped]
      | array rank => exact absurd rfl (ends rank)
  | pointer p =>
    have inner := wrapped_core p [] (.pointer :: (run.map .array ++ rest)) (by simp)
    simpa [core, layers, wrapped, wrapped_arrays] using inner
  | primitive _ | void | path _ | nullable _ => exact wrapped_arrays _ [] run rest

theorem eq_of_core_of_layers {s t : Skeleton} (sameCore : s.core = t.core)
    (sameLayers : s.layers [] = t.layers []) : s = t := by
  have readS := wrapped_core s [] [] (by simp)
  have readT := wrapped_core t [] [] (by simp)
  simp only [List.map_nil, List.append_nil] at readS readT
  rw [sameCore, sameLayers] at readS
  exact readS.symm.trans readT

/-- All arrays among the layers have a dimension. -/
def ArePositive (layers : List Layer) : Prop :=
  ∀ rank, .array rank ∈ layers → 1 ≤ rank

/-! ### Readable skeletons -/

/-- A skeleton that a nullable may be around. -/
def IsBase : Skeleton → Prop
  | primitive _ | void | path _ => True
  | _ => False

/-- Paths have parts with plain names, nullables are around a base, and ranks are positive. -/
inductive IsReadable : Skeleton → Prop where
  | primitive (type : Primitive) : IsReadable (.primitive type)
  | void : IsReadable .void
  | path {parts : List (Level Skeleton)} (nonempty : parts ≠ [])
      (names : ∀ part ∈ parts, IsPlain part.name)
      (arguments : ∀ part ∈ parts, ∀ s ∈ part.arguments, IsReadable s) :
      IsReadable (.path parts)
  | nullable {u : Skeleton} (isBase : u.IsBase) (underlying : IsReadable u) :
      IsReadable (.nullable u)
  | array {e : Skeleton} {rank : Int} (positive : 1 ≤ rank) (element : IsReadable e) :
      IsReadable (.array e rank)
  | pointer {p : Skeleton} (pointee : IsReadable p) : IsReadable (.pointer p)

theorem isReadable_path_iff {parts : List (Level Skeleton)} :
    IsReadable (path parts) ↔ parts ≠ [] ∧
      ∀ part ∈ parts, IsPlain part.name ∧ ∀ s ∈ part.arguments, IsReadable s := by
  constructor
  · intro h
    cases h with
    | path nonempty names arguments =>
      exact ⟨nonempty, fun part member ↦ ⟨names part member, arguments part member⟩⟩
  · rintro ⟨nonempty, each⟩
    exact .path nonempty (fun part member ↦ (each part member).1)
      fun part member ↦ (each part member).2

theorem IsReadable.arePositive_layers {s : Skeleton} (h : IsReadable s) {run : List Layer}
    (hrun : ArePositive run) : ArePositive (s.layers run) := by
  induction h generalizing run with
  | array positive element ih =>
    apply ih
    intro rank member
    rcases List.mem_append.1 member with inRun | isLast
    · exact hrun rank inRun
    · obtain rfl : rank = _ := by simpa using isLast
      exact positive
  | pointer pointee ih =>
    intro rank member
    rcases List.mem_append.1 member with inside | outside
    · exact ih (by simp [ArePositive]) rank inside
    · exact hrun rank (by simpa using outside)
  | _ => exact hrun

theorem IsReadable.core_eq {s : Skeleton} (h : IsReadable s) :
    ∃ b, IsReadable b ∧ b.IsBase ∧ (s.core = b ∨ s.core = .nullable b) := by
  induction h with
  | primitive type => exact ⟨_, .primitive type, trivial, .inl rfl⟩
  | void => exact ⟨_, .void, trivial, .inl rfl⟩
  | path nonempty names arguments =>
    exact ⟨_, .path nonempty names arguments, trivial, .inl rfl⟩
  | nullable isBase underlying => exact ⟨_, underlying, isBase, .inr rfl⟩
  | array _ _ ih => exact ih
  | pointer _ ih => exact ih

theorem coreText_core (s : Skeleton) : s.core.coreText = s.coreText := by
  match s with
  | array e _ => exact coreText_core e
  | pointer p => exact coreText_core p
  | primitive _ | void | path _ | nullable _ => rfl

end Skeleton

namespace Descriptor

open Identifier (IsPlain)
open Skeleton (IsReadable IsBase isReadable_path_iff)

/-! ### Skeletons of descriptors -/

theorem argumentSkeletons_eq_map (arguments : List Descriptor) :
    argumentSkeletons arguments = arguments.map skeleton := by
  induction arguments with
  | nil => rfl
  | cons a arguments ih => simp [argumentSkeletons, ih]

theorem mem_levelSkeletons {levels : List (Level Descriptor)} {part : Level Skeleton} :
    part ∈ levelSkeletons levels ↔
      ∃ level ∈ levels, part = ⟨level.name, level.arguments.map skeleton⟩ := by
  induction levels with
  | nil => simp [levelSkeletons]
  | cons level levels ih => simp [levelSkeletons, argumentSkeletons_eq_map, ih]

theorem isBase_skeleton {u : Descriptor} (h : ¬ u.IsUnwrappable) : u.skeleton.IsBase := by
  rw [IsUnwrappable, not_or, Bool.not_eq_false] at h
  obtain ⟨isOther, isValue⟩ := h
  cases u with
  | primitive _ | void | parameter _ => simp [skeleton, IsBase]
  | named segments levels valueType wellKnown =>
    have noWrapper : isNullableWrapper (named segments levels valueType wellKnown) = false := by
      cases wrapper : isNullableWrapper (named segments levels valueType wellKnown) with
      | false => rfl
      | true => exact absurd (kind_eq_nullable_iff.2 (.inr wrapper)) isOther
    rw [skeleton_named noWrapper]
    trivial
  | array _ _ _ | pointer _ => cases isValue
  | nullable _ => exact absurd rfl isOther

theorem isReadable_path {segments : List Text} {levels : List (Level Descriptor)}
    (nonempty : levels ≠ [])
    (plain : ∀ identifier ∈ segments ++ levels.map Level.name, IsPlain identifier)
    (each : ∀ a ∈ argumentsOf levels, IsReadable a.skeleton) :
    IsReadable (.path (bareParts segments ++ levelSkeletons levels)) := by
  refine isReadable_path_iff.2 ⟨?_, ?_⟩
  · obtain ⟨level, rest, rfl⟩ := List.exists_cons_of_ne_nil nonempty
    simp [levelSkeletons]
  · intro part member
    rcases List.mem_append.1 member with isSegment | isLevel
    · obtain ⟨segment, inSegments, rfl⟩ := List.mem_map.1 isSegment
      exact ⟨plain segment (by simp [inSegments]), by simp⟩
    · obtain ⟨level, inLevels, rfl⟩ := mem_levelSkeletons.1 isLevel
      refine ⟨plain level.name (List.mem_append_right _ (List.mem_map_of_mem inLevels)), ?_⟩
      intro s isArgument
      obtain ⟨a, inArguments, rfl⟩ := List.mem_map.1 isArgument
      exact each a (mem_argumentsOf.2 ⟨level, inLevels, inArguments⟩)

theorem isReadable_skeleton {d : Descriptor} (wellFormed : WellFormed d)
    (plain : HasPlainIdentifiers d) (hasName : HasName true d) : IsReadable d.skeleton := by
  induction d using partsInduction with
  | step d ih =>
    obtain ⟨wellMade, partsNamed⟩ := hasName_iff_parts.1 hasName
    obtain ⟨plainHere, plainBelow⟩ := hasPlainIdentifiers_iff.1 plain
    have inner : ∀ c ∈ d.parts, IsReadable c.skeleton := fun c isPart ↦
      ih c isPart (wellFormed.of_mem_parts isPart) (plainBelow c isPart)
        (partsNamed c isPart)
    cases d with
    | primitive type => exact .primitive type
    | void => exact .void
    | parameter name =>
      refine isReadable_path_iff.2 ⟨by simp, ?_⟩
      simpa [ownIdentifiers] using plainHere
    | named segments levels valueType wellKnown =>
      cases wrapper : isNullableWrapper (named segments levels valueType wellKnown) with
      | false =>
        rw [skeleton_named wrapper]
        exact isReadable_path wellFormed.1 plainHere inner
      | true =>
        by_cases shape : ∃ name u, levels = [⟨name, [u]⟩]
        · obtain ⟨name, u, rfl⟩ := shape
          rw [skeleton_wrapper wrapper]
          have wrappable : ¬ u.IsUnwrappable := fun h ↦ wellMade ⟨wrapper, h⟩
          exact .nullable (isBase_skeleton wrappable) (inner u (by simp [parts, argumentsOf]))
        · have other : ∀ name u, levels ≠ [⟨name, [u]⟩] :=
            fun name u same ↦ shape ⟨name, u, same⟩
          exact absurd (isMalformed_of_arity wrapper other) wellMade
    | array e rank m => exact .array wellFormed.1 (inner e (by simp [parts]))
    | pointer p => exact .pointer (inner p (by simp [parts]))
    | nullable u => exact .nullable (isBase_skeleton wellMade) (inner u (by simp [parts]))

end Descriptor
end TypeDisplay
