import TypeDisplay.Descriptor.Builder
import TypeDisplay.Proofs.Layers

/-!
# Skeletons

The skeleton of a descriptor is what its display name tells.  It forgets the flags of arrays and
named types, which of the two forms of a nullable was chosen, what a namespace segment has over
an outer level without arguments, and what a free parameter has over the global type of the same
name.  A tag is forgotten where it does not make a named type a nullable.

A skeleton has a text of its own, and the name of a descriptor is the text of its skeleton.
-/

namespace TypeDisplay

inductive Skeleton where
  | primitive (type : Primitive)
  | void
  /-- Names that are joined by points, each with its own arguments. -/
  | path (parts : List (Level Skeleton))
  | nullable (underlying : Skeleton)
  | array (element : Skeleton) (rank : Int)
  | pointer (pointee : Skeleton)

namespace Descriptor

/-- Segments of a namespace as parts of a path. -/
def bareParts (segments : List Text) : List (Level Skeleton) :=
  segments.map fun segment ↦ ⟨segment, []⟩

mutual

/-- What the name of a descriptor tells.  A malformed wrapper has no name, and it is taken as if
it had no tag. -/
def skeleton : Descriptor → Skeleton
  | primitive type => .primitive type
  | void => .void
  | parameter name => .path [⟨name, []⟩]
  | named segments levels valueType wellKnown =>
      match isNullableWrapper (named segments levels valueType wellKnown), levels with
      | true, [⟨_, [u]⟩] => .nullable (skeleton u)
      | _, levels => .path (bareParts segments ++ levelSkeletons levels)
  | array element rank _ => .array (skeleton element) rank
  | pointer pointee => .pointer (skeleton pointee)
  | nullable underlying => .nullable (skeleton underlying)

def levelSkeletons : List (Level Descriptor) → List (Level Skeleton)
  | [] => []
  | ⟨name, arguments⟩ :: rest =>
      ⟨name, argumentSkeletons arguments⟩ :: levelSkeletons rest

def argumentSkeletons : List Descriptor → List Skeleton
  | [] => []
  | d :: rest => skeleton d :: argumentSkeletons rest

end

def Layer.text : Layer → Text
  | .pointer => "*"
  | .array rank => rankToken rank

end Descriptor

namespace Skeleton

open Descriptor (Layer levelText)

/-- The skeleton inside all layers. -/
def core : Skeleton → Skeleton
  | array e _ => core e
  | pointer p => core p
  | s => s

/-- The layers around the core in the order in which they are written; `run` holds the arrays
that were passed since the last pointer. -/
def layers : Skeleton → (run : List Layer) → List Layer
  | array e rank, run => layers e (run ++ [.array rank])
  | pointer p, run => layers p [] ++ .pointer :: run
  | _, run => run

def layersText (layers : List Layer) : Text :=
  layers.flatMap Layer.text

mutual

def coreText : Skeleton → Text
  | primitive type => type.keyword
  | void => "void"
  | path parts => ("." : Text).intercalate (partTexts parts)
  | nullable u => coreText u ++ layersText (u.layers []) ++ "?"
  | array e _ => coreText e
  | pointer p => coreText p

def partTexts : List (Level Skeleton) → List Text
  | [] => []
  | ⟨name, arguments⟩ :: rest =>
      levelText true name (argumentTexts arguments) :: partTexts rest

def argumentTexts : List Skeleton → List Text
  | [] => []
  | s :: rest => (coreText s ++ layersText (s.layers [])) :: argumentTexts rest

end

def text (s : Skeleton) : Text :=
  s.coreText ++ layersText (s.layers [])

@[simp] theorem layersText_append (ls ms : List Layer) :
    layersText (ls ++ ms) = layersText ls ++ layersText ms := by
  simp [layersText]

end Skeleton

namespace Descriptor

open Skeleton (layersText coreText partTexts argumentTexts)

/-! ### Names are texts of skeletons -/

theorem argumentNames_eq_texts {arguments : List Descriptor} {texts : List Text}
    (each : ∀ a ∈ arguments, ∀ text, a.displayName = .ok text → text = a.skeleton.text)
    (h : argumentNames true arguments = .ok texts) :
    texts = argumentTexts (argumentSkeletons arguments) := by
  induction arguments generalizing texts with
  | nil => simpa [argumentNames, argumentSkeletons, argumentTexts] using h.symm
  | cons a arguments ih =>
    rw [argumentNames, except_bind_eq_ok_iff] at h
    obtain ⟨text, first, h⟩ := h
    obtain ⟨others, rest, rfl⟩ := except_map_eq_ok_iff.1 h
    rw [each a (by simp) text first, ih (fun b member ↦ each b (by simp [member])) rest]
    rfl

theorem levelNames_eq_texts {levels : List (Level Descriptor)} {texts : List Text}
    (each : ∀ a ∈ argumentsOf levels, ∀ text, a.displayName = .ok text → text = a.skeleton.text)
    (h : levelNames true levels = .ok texts) :
    texts = partTexts (levelSkeletons levels) := by
  induction levels generalizing texts with
  | nil => simpa [levelNames, levelSkeletons, partTexts] using h.symm
  | cons level levels ih =>
    obtain ⟨name, arguments⟩ := level
    have inArguments : ∀ a ∈ arguments, a ∈ argumentsOf (⟨name, arguments⟩ :: levels) := by
      simp +contextual [argumentsOf]
    have inRest : ∀ a ∈ argumentsOf levels, a ∈ argumentsOf (⟨name, arguments⟩ :: levels) := by
      simp +contextual [argumentsOf]
    rw [levelNames, except_bind_eq_ok_iff] at h
    obtain ⟨own, first, h⟩ := h
    obtain ⟨others, rest, rfl⟩ := except_map_eq_ok_iff.1 h
    rw [argumentNames_eq_texts (fun a member ↦ each a (inArguments a member)) first,
      ih (fun a member ↦ each a (inRest a member)) rest]
    rfl

section

variable {segments : List Text} {levels : List (Level Descriptor)} {valueType : Option Bool}
  {wellKnown : Option WellKnown}

theorem skeleton_wrapper {name : Text} {u : Descriptor}
    (h : isNullableWrapper (named segments [⟨name, [u]⟩] valueType wellKnown) = true) :
    (named segments [⟨name, [u]⟩] valueType wellKnown).skeleton = .nullable u.skeleton := by
  rw [skeleton.eq_def]
  simp only [h]

theorem skeleton_named (h : isNullableWrapper (named segments levels valueType wellKnown) = false) :
    (named segments levels valueType wellKnown).skeleton =
      .path (bareParts segments ++ levelSkeletons levels) := by
  rw [skeleton.eq_def]
  simp only [h]

end

theorem partTexts_bareParts_append (segments : List Text) (parts : List (Level Skeleton)) :
    partTexts (bareParts segments ++ parts) =
      segments.map (Identifier.display true) ++ partTexts parts := by
  induction segments with
  | nil => rfl
  | cons segment segments ih =>
    simp only [bareParts] at ih
    simp [bareParts, partTexts, ih, argumentTexts, levelText]

/-- The layers that are pending are read as layers around the skeleton. -/
theorem nameBefore_eq_text {d : Descriptor} {run : List Layer} {rest text : Text}
    (h : nameBefore true d (layersText run) rest = .ok text) :
    text = d.skeleton.coreText ++ (layersText (d.skeleton.layers run) ++ rest) := by
  induction d using partsInduction generalizing run rest text with
  | step d ih =>
    have inner : ∀ c ∈ d.parts, ∀ text, c.displayName = .ok text → text = c.skeleton.text := by
      intro c isPart text h
      simpa [Skeleton.text] using @ih c isPart [] [] text h
    cases d with
    | primitive _ | void | parameter _ =>
      simp only [nameBefore, Except.ok.injEq] at h
      simp [← h, skeleton, coreText, Skeleton.layers, partTexts, argumentTexts, levelText]
    | pointer p =>
      rw [nameBefore] at h
      simpa [skeleton, coreText, Skeleton.layers, layersText, Layer.text] using
        @ih p (by simp [parts]) [] _ _ h
    | array e rank m =>
      have longer : layersText run ++ rankToken rank = layersText (run ++ [.array rank]) := by
        simp [layersText, Layer.text]
      rw [nameBefore, longer] at h
      exact ih e (by simp [parts]) h
    | nullable u =>
      rw [nameBefore_nullable] at h
      obtain ⟨name, wrapped, rfl⟩ := except_map_eq_ok_iff.1 h
      obtain ⟨-, unmarked, named, rfl⟩ := (wrappedName_eq_ok_iff true).1 wrapped
      rw [inner u (by simp [parts]) unmarked named]
      simp [skeleton, coreText, Skeleton.layers, Skeleton.text]
    | named segments levels valueType wellKnown =>
      cases wrapper : isNullableWrapper (named segments levels valueType wellKnown) with
      | false =>
        rw [nameBefore_named true wrapper] at h
        obtain ⟨texts, named, rfl⟩ := except_map_eq_ok_iff.1 h
        rw [levelNames_eq_texts inner named, skeleton_named wrapper]
        simp [coreText, Skeleton.layers, namedText, partTexts_bareParts_append]
      | true =>
        by_cases shape : ∃ name u, levels = [⟨name, [u]⟩]
        · obtain ⟨_, u, rfl⟩ := shape
          rw [nameBefore_wrapper true wrapper] at h
          obtain ⟨name, wrapped, rfl⟩ := except_map_eq_ok_iff.1 h
          obtain ⟨-, unmarked, named, rfl⟩ := (wrappedName_eq_ok_iff true).1 wrapped
          rw [inner u (by simp [parts, argumentsOf]) unmarked named, skeleton_wrapper wrapper]
          simp [coreText, Skeleton.layers, Skeleton.text]
        · rw [nameBefore_wrapper_arity true wrapper fun name u same ↦ shape ⟨name, u, same⟩] at h
          cases h

theorem displayName_eq_text {d : Descriptor} {text : Text} (h : d.displayName = .ok text) :
    text = d.skeleton.text := by
  simpa [Skeleton.text] using @nameBefore_eq_text d [] [] text h

end Descriptor
end TypeDisplay
