import TypeDisplay.Proofs.Levels
import TypeDisplay.Proofs.Malformed
import TypeDisplay.Proofs.Words

/-!
# Renamed identifiers

A renaming changes the identifiers of a descriptor at every depth and nothing else.  Marking the
keywords in a name is such a renaming: the name with marks is the plain name of the descriptor
whose identifiers were marked before.  Where no identifier holds the mark, deleting all marks gives
the plain name back.
-/

namespace TypeDisplay

namespace Descriptor

/-! ### Renaming -/

mutual

def rename (f : Text → Text) : Descriptor → Descriptor
  | primitive type => primitive type
  | void => void
  | parameter name => parameter (f name)
  | named segments levels valueType wellKnown =>
      named (segments.map f) (renameLevels f levels) valueType wellKnown
  | array element rank multiDimensional => array (rename f element) rank multiDimensional
  | pointer pointee => pointer (rename f pointee)
  | nullable underlying => nullable (rename f underlying)

def renameLevels (f : Text → Text) : List (Level Descriptor) → List (Level Descriptor)
  | [] => []
  | ⟨name, arguments⟩ :: rest => ⟨f name, renameAll f arguments⟩ :: renameLevels f rest

def renameAll (f : Text → Text) : List Descriptor → List Descriptor
  | [] => []
  | d :: rest => rename f d :: renameAll f rest

end

variable (f : Text → Text)

theorem renameAll_eq_map (arguments : List Descriptor) :
    renameAll f arguments = arguments.map (rename f) := by
  induction arguments with
  | nil => rfl
  | cons a arguments ih => rw [renameAll, ih, List.map_cons]

theorem renameLevels_eq_map (levels : List (Level Descriptor)) :
    renameLevels f levels = levels.map (Level.map f (rename f)) := by
  induction levels with
  | nil => rfl
  | cons level levels ih =>
    rw [renameLevels, ih, renameAll_eq_map, List.map_cons, Level.map]

theorem isParameter_rename (d : Descriptor) : (d.rename f).isParameter = d.isParameter := by
  cases d <;> simp [rename, isParameter]

theorem isNullableWrapper_rename (d : Descriptor) :
    (d.rename f).isNullableWrapper = d.isNullableWrapper := by
  cases d with
  | named segments levels valueType wellKnown =>
    have same : isConstructed (renameLevels f levels) = isConstructed levels := by
      rw [renameLevels_eq_map]
      exact isConstructed_map fun a _ ↦ isParameter_rename f a
    cases wellKnown with
    | none => simp [rename, isNullableWrapper]
    | some wellKnown => simp [rename, isNullableWrapper, same]
  | _ => simp [rename, isNullableWrapper]

theorem kind_rename (d : Descriptor) : (d.rename f).kind = d.kind := by
  have wrapper := isNullableWrapper_rename f d
  cases d with
  | named segments levels valueType wellKnown =>
    rw [rename] at wrapper ⊢
    rw [kind, kind, wrapper]
  | _ => simp [rename, kind]

theorem isValueType_rename (d : Descriptor) : (d.rename f).isValueType = d.isValueType := by
  have wrapper := isNullableWrapper_rename f d
  cases d with
  | named segments levels valueType wellKnown =>
    rw [rename] at wrapper ⊢
    rw [isValueType, isValueType, wrapper]
  | _ => simp [rename, isValueType]

theorem map_eq_self {α : Type} {g : α → α} {as : List α} (keeps : ∀ a ∈ as, g a = a) :
    as.map g = as :=
  (List.map_congr_left keeps).trans (List.map_id' as)

/-- A renaming that keeps all identifiers of a descriptor changes nothing. -/
theorem rename_eq_self {d : Descriptor}
    (keeps : ∀ s, Occurs s d → ∀ identifier ∈ s.ownIdentifiers, f identifier = identifier) :
    d.rename f = d := by
  induction d using partsInduction with
  | step d ih =>
    obtain ⟨keepsOwn, keepsInside⟩ := forall_occurs_iff.1 keeps
    have inside : ∀ c ∈ d.parts, c.rename f = c :=
      fun c isPart ↦ ih c isPart (keepsInside c isPart)
    cases d with
    | primitive _ | void => simp [rename]
    | parameter name =>
      have keepsName : f name = name := keepsOwn name (by simp [ownIdentifiers])
      rw [rename, keepsName]
    | named segments levels valueType wellKnown =>
      have keepsSegments : segments.map f = segments :=
        map_eq_self fun segment isSegment ↦
          keepsOwn segment (by simp [ownIdentifiers, isSegment])
      have keepsLevel : ∀ level ∈ levels, Level.map f (rename f) level = level := by
        intro level isLevel
        have keepsName : f level.name = level.name :=
          keepsOwn level.name (by simpa [ownIdentifiers] using .inr ⟨level, isLevel, rfl⟩)
        have keepsArguments : level.arguments.map (rename f) = level.arguments :=
          map_eq_self fun a isArgument ↦
            inside a (mem_argumentsOf.2 ⟨level, isLevel, isArgument⟩)
        rw [Level.map, keepsName, keepsArguments]
      have keepsLevels : renameLevels f levels = levels := by
        rw [renameLevels_eq_map]
        exact map_eq_self keepsLevel
      rw [rename, keepsSegments, keepsLevels]
    | array e _ _ | pointer e | nullable e =>
      have inner : e.rename f = e := inside e (by simp [parts])
      rw [rename, inner]

/-! ### Names without marks -/

section marks

variable {keep : CodePoint → Bool} (onlyMarks : ∀ p, p ≠ Identifier.marker → keep p = true)

include onlyMarks

theorem filter_eq_self_of_unmarked {text : Text} (unmarked : Identifier.marker ∉ text) :
    text.filter keep = text := by
  refine List.filter_eq_self.2 fun p member ↦ onlyMarks p ?_
  rintro rfl
  exact unmarked member

theorem filter_keyword (type : Primitive) :
    (Text.ofString type.keyword).filter keep = type.keyword := by
  refine filter_eq_self_of_unmarked onlyMarks ?_
  cases type <;> decide

theorem filter_rankToken (rank : Int) : (rankToken rank).filter keep = rankToken rank := by
  refine filter_eq_self_of_unmarked onlyMarks ?_
  have comma : Identifier.marker ≠ .char ',' := by decide
  have brackets : Identifier.marker ≠ .char '[' ∧ Identifier.marker ≠ .char ']' := by decide
  simp [rankToken, comma, brackets]

theorem filter_intercalate {sep : Text} (unmarked : Identifier.marker ∉ sep)
    (texts : List Text) :
    (sep.intercalate texts).filter keep = sep.intercalate (texts.map (List.filter keep)) := by
  cases texts with
  | nil => rfl
  | cons text texts =>
    have same := filter_eq_self_of_unmarked onlyMarks unmarked
    rw [Text.intercalate_cons, List.map_cons, Text.intercalate_cons, List.filter_append]
    simp [List.filter_flatMap, List.flatMap_map, same]

variable {escaping : Bool}

/-- What the deletion leaves of a displayed identifier. -/
def shownBy (escaping : Bool) (keep : CodePoint → Bool) (identifier : Text) : Text :=
  (Identifier.display escaping identifier).filter keep

theorem filter_levelText (name : Text) (texts : List Text) :
    (levelText escaping name texts).filter keep =
      levelText false (shownBy escaping keep name) (texts.map (List.filter keep)) := by
  have separator : Identifier.marker ∉ (", " : Text) := by decide
  have less : (Text.ofString "<").filter keep = "<" :=
    filter_eq_self_of_unmarked onlyMarks (by decide)
  have greater : (Text.ofString ">").filter keep = ">" :=
    filter_eq_self_of_unmarked onlyMarks (by decide)
  cases texts with
  | nil => simp [levelText, shownBy]
  | cons text texts =>
    simp only [levelText, List.isEmpty_cons, Bool.false_eq_true, if_false, List.map_cons,
      List.filter_append, filter_intercalate onlyMarks separator, less, greater, shownBy,
      Identifier.display_false]

theorem filter_namedText (segments texts : List Text) :
    (namedText escaping segments texts).filter keep =
      namedText false (segments.map (shownBy escaping keep)) (texts.map (List.filter keep)) := by
  have separator : Identifier.marker ∉ (".": Text) := by decide
  rw [namedText, filter_intercalate onlyMarks separator, namedText]
  simp [shownBy, Function.comp_def]

/-! ### Marked names -/

/-- What is left of the name of an argument is the plain name of the renamed argument. -/
def Renames (escaping : Bool) (keep : CodePoint → Bool) (d : Descriptor) : Prop :=
  ∀ text, d.displayName escaping = .ok text →
    (d.rename (shownBy escaping keep)).displayName false = .ok (text.filter keep)

omit onlyMarks in
theorem argumentNames_rename {arguments : List Descriptor} {texts : List Text}
    (each : ∀ a ∈ arguments, Renames escaping keep a)
    (h : argumentNames escaping arguments = .ok texts) :
    argumentNames false (arguments.map (rename (shownBy escaping keep))) =
      .ok (texts.map (List.filter keep)) := by
  induction arguments generalizing texts with
  | nil =>
    obtain rfl : texts = [] := by simpa [argumentNames] using h.symm
    rfl
  | cons a arguments ih =>
    rw [argumentNames, except_bind_eq_ok_iff] at h
    obtain ⟨text, first, h⟩ := h
    obtain ⟨others, rest, rfl⟩ := except_map_eq_ok_iff.1 h
    have firstName := each a (by simp) text first
    have otherNames := ih (fun b member ↦ each b (by simp [member])) rest
    rw [displayName] at firstName
    simp [argumentNames, firstName, otherNames, Except.bind, Except.map]

theorem levelNames_rename {levels : List (Level Descriptor)} {texts : List Text}
    (each : ∀ a ∈ argumentsOf levels, Renames escaping keep a)
    (h : levelNames escaping levels = .ok texts) :
    levelNames false (renameLevels (shownBy escaping keep) levels) =
      .ok (texts.map (List.filter keep)) := by
  induction levels generalizing texts with
  | nil =>
    obtain rfl : texts = [] := by simpa [levelNames] using h.symm
    rfl
  | cons level levels ih =>
    obtain ⟨name, arguments⟩ := level
    rw [levelNames, except_bind_eq_ok_iff] at h
    obtain ⟨own, first, h⟩ := h
    obtain ⟨others, rest, rfl⟩ := except_map_eq_ok_iff.1 h
    have ownNames := argumentNames_rename
      (fun a isArgument ↦ each a (by simp [argumentsOf, isArgument])) first
    have inRest : ∀ a ∈ argumentsOf levels, Renames escaping keep a := by
      intro a isArgument
      refine each a ?_
      simpa [argumentsOf] using Or.inr (mem_argumentsOf.1 isArgument)
    have otherNames := ih inRest rest
    rw [renameLevels, renameAll_eq_map, levelNames, ownNames, otherNames, List.map_cons,
      filter_levelText onlyMarks]
    rfl

omit onlyMarks in
theorem wrappedName_rename {u : Descriptor} {text : Text} (renames : Renames escaping keep u)
    (keepsQuery : (Text.ofString "?").filter keep = "?")
    (h : wrappedName escaping u = .ok text) :
    wrappedName false (u.rename (shownBy escaping keep)) = .ok (text.filter keep) := by
  obtain ⟨⟨notNullable, isValue⟩, inner, named, rfl⟩ := (wrappedName_eq_ok_iff escaping).1 h
  refine (wrappedName_eq_ok_iff false).2 ⟨⟨?_, ?_⟩, inner.filter keep, renames inner named, ?_⟩
  · rwa [kind_rename]
  · rwa [isValueType_rename]
  · rw [List.filter_append, keepsQuery]

/-- A name, together with the layers that are pending around it, is filtered part by part. -/
theorem nameBefore_rename {d : Descriptor} {run layers text : Text}
    (h : nameBefore escaping d run layers = .ok text) :
    nameBefore false (d.rename (shownBy escaping keep)) (run.filter keep) (layers.filter keep) =
      .ok (text.filter keep) := by
  have keeps : ∀ word : String, Identifier.marker ∉ (word : Text) →
      (word : Text).filter keep = word := fun _ unmarked ↦
    filter_eq_self_of_unmarked onlyMarks unmarked
  induction d using partsInduction generalizing run layers text with
  | step d ih =>
    have inside : ∀ c ∈ d.parts, Renames escaping keep c :=
      fun c isPart text named ↦ ih c isPart named
    cases d with
    | primitive type =>
      obtain rfl : _ = text := by simpa [nameBefore] using h
      simp [rename, nameBefore, filter_keyword onlyMarks]
    | void =>
      obtain rfl : _ = text := by simpa [nameBefore] using h
      simp [rename, nameBefore, keeps "void" (by decide)]
    | parameter name =>
      obtain rfl : _ = text := by simpa [nameBefore] using h
      simp [rename, nameBefore, shownBy]
    | pointer p =>
      rw [nameBefore] at h
      have inner := ih p (by simp [parts]) h
      rw [rename, nameBefore]
      simpa [keeps "*" (by decide)] using inner
    | array e rank m =>
      rw [nameBefore] at h
      have inner := ih e (by simp [parts]) h
      rw [rename, nameBefore]
      simpa [filter_rankToken onlyMarks] using inner
    | nullable u =>
      rw [nameBefore_nullable] at h
      obtain ⟨name, wrapped, rfl⟩ := except_map_eq_ok_iff.1 h
      have inner := wrappedName_rename (inside u (by simp [parts])) (keeps "?" (by decide)) wrapped
      rw [rename, nameBefore_nullable, inner]
      simp [Except.map]
    | named segments levels valueType wellKnown =>
      have sameWrapper := isNullableWrapper_rename (shownBy escaping keep)
        (named segments levels valueType wellKnown)
      rw [rename] at sameWrapper ⊢
      rcases named_cases segments levels valueType wellKnown with
        ordinary | ⟨wrapper, ⟨_, u, rfl⟩ | other⟩
      · rw [ordinary] at sameWrapper
        rw [nameBefore_named escaping ordinary] at h
        obtain ⟨texts, named, rfl⟩ := except_map_eq_ok_iff.1 h
        have inner := levelNames_rename onlyMarks inside named
        rw [nameBefore_named false sameWrapper, inner]
        simp [Except.map, filter_namedText onlyMarks]
      · rw [wrapper] at sameWrapper
        rw [nameBefore_wrapper escaping wrapper] at h
        obtain ⟨name, wrapped, rfl⟩ := except_map_eq_ok_iff.1 h
        have inner := wrappedName_rename (inside u (by simp [parts, argumentsOf]))
          (keeps "?" (by decide)) wrapped
        simp only [renameLevels, renameAll] at sameWrapper ⊢
        rw [nameBefore_wrapper false sameWrapper, inner]
        simp [Except.map]
      · rw [nameBefore_wrapper_arity escaping wrapper other] at h
        cases h

theorem renames (d : Descriptor) : Renames escaping keep d :=
  fun _ named ↦ nameBefore_rename onlyMarks named

end marks

/-- The name with marks is the plain name of the descriptor with marked identifiers, and without
its marks it is the plain name of the descriptor itself. -/
theorem displayName_marked (d : Descriptor) :
    ((∃ text, d.displayName true = .ok text) ↔ ∃ text, d.displayName false = .ok text) ∧
      (∀ text, d.displayName true = .ok text →
        (d.rename (Identifier.display true)).displayName false = .ok text) ∧
      ((∀ s, Occurs s d → ∀ identifier ∈ s.ownIdentifiers, Identifier.marker ∉ identifier) →
        ∀ text, d.displayName true = .ok text →
          d.displayName false = .ok (text.filter (· ≠ Identifier.marker))) := by
  have sameSuccess : HasName true d ↔ HasName false d := by
    rw [hasName_iff, hasName_iff]
  refine ⟨sameSuccess, ?_, ?_⟩
  · intro text named
    have keepsAll : shownBy true (fun _ ↦ true) = Identifier.display true := by
      funext identifier
      simp [shownBy]
    have keepsText : text.filter (fun _ ↦ true) = text := List.filter_eq_self.2 fun _ _ ↦ rfl
    have renamed := renames (fun _ _ ↦ rfl) d text named
    rwa [keepsAll, keepsText] at renamed
  · intro unmarked text named
    have onlyMarks : ∀ p, p ≠ Identifier.marker → decide (p ≠ Identifier.marker) = true :=
      fun p other ↦ decide_eq_true other
    have keepsIdentifiers : d.rename (shownBy true (· ≠ Identifier.marker)) = d := by
      refine rename_eq_self _ fun s occurs identifier isOwn ↦ ?_
      have plain := filter_eq_self_of_unmarked onlyMarks (unmarked s occurs identifier isOwn)
      rw [shownBy, Identifier.display]
      split
      · rw [List.filter_cons_of_neg (by simp), plain]
      · exact plain
    have renamed := renames onlyMarks d text named
    rwa [keepsIdentifiers] at renamed

/-- A type in which a keyword is a namespace, a level, and the parameter under a nullable. -/
def keywordNames : Descriptor :=
  pointer (named ["int", "N"] [⟨"class", [nullable (parameter "ref"), primitive .int]⟩] none none)

theorem displayName_keywordNames :
    keywordNames.displayName true = .ok "@int.N.@class<@ref?, int>*" ∧
      (∀ s, Occurs s keywordNames → ∀ identifier ∈ s.ownIdentifiers,
        Identifier.marker ∉ identifier) ∧
      (keywordNames.rename (Identifier.display true)).displayName false =
        .ok "@int.N.@class<@ref?, int>*" ∧
      keywordNames.displayName false = .ok "int.N.class<ref?, int>*" := by
  have named : keywordNames.displayName true = .ok "@int.N.@class<@ref?, int>*" := rfl
  have unmarked : ∀ s, Occurs s keywordNames → ∀ identifier ∈ s.ownIdentifiers,
      Identifier.marker ∉ identifier := by
    rw [keywordNames, forall_occurs_iff]
    refine ⟨by decide, ?_⟩
    simp only [parts, List.mem_singleton, forall_eq]
    rw [forall_occurs_iff]
    refine ⟨by decide +kernel, ?_⟩
    simp only [parts, argumentsOf, List.flatMap_cons, List.flatMap_nil, List.append_nil,
      List.mem_cons, List.not_mem_nil, or_false, forall_eq_or_imp, forall_eq]
    rw [forall_occurs_iff, forall_occurs_iff]
    refine ⟨⟨by decide, ?_⟩, by decide, by simp [parts]⟩
    simp only [parts, List.mem_singleton, forall_eq]
    rw [forall_occurs_iff]
    exact ⟨by decide +kernel, by simp [parts]⟩
  obtain ⟨-, renamed, plain⟩ := displayName_marked keywordNames
  refine ⟨named, unmarked, renamed _ named, ?_⟩
  rw [plain unmarked _ named]
  rfl

end Descriptor
end TypeDisplay
