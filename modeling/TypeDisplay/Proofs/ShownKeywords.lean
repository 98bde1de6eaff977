import TypeDisplay.Proofs.Tokens

/-!
# Keywords in names

No identifier is displayed as a bare keyword, and built-in types are displayed as nothing else.  So
the keywords among the tokens of a name are its built-in types, from left to right, and an identifier
that is a keyword is only found behind the marker.
-/

namespace TypeDisplay

namespace Identifier

theorem isKeyword_iff {identifier : Text} :
    isKeyword identifier = true ↔ ∃ word ∈ Keyword.marked, identifier = Text.ofString word := by
  simp only [isKeyword, Option.any_eq_true, Text.string?_eq_some_iff, List.contains_iff_mem]
  exact exists_congr fun word ↦ and_comm

theorem isKeyword_ofString {word : String} (isMarked : word ∈ Keyword.marked) :
    isKeyword word = true :=
  isKeyword_iff.2 ⟨word, isMarked, rfl⟩

theorem keyword_mem_marked (type : Primitive) : type.keyword ∈ Keyword.marked := by
  cases type <;> decide +kernel

theorem marker_notMem_of_mem_marked {word : String} (isMarked : word ∈ Keyword.marked) :
    marker ∉ Text.ofString word := by
  revert word
  decide +kernel

/-- No identifier is displayed as a bare keyword. -/
theorem isKeyword_display (identifier : Text) :
    isKeyword (display true identifier) = false := by
  cases keyword : isKeyword identifier with
  | false => simp [display, keyword]
  | true =>
    rw [← Bool.not_eq_true, isKeyword_iff]
    rintro ⟨word, isMarked, same⟩
    have begins : marker ∈ Text.ofString word := by simp [← same, display, keyword]
    exact marker_notMem_of_mem_marked isMarked begins

end Identifier

namespace Descriptor

open Identifier (IsOneWord isKeyword marker display)
open Word (shown)

/-! ### Keywords among words -/

mutual

/-- The keywords of the primitives and of `void` inside a descriptor, from left to right. -/
def builtIns : Descriptor → List String
  | primitive type => [type.keyword]
  | void => ["void"]
  | parameter _ => []
  | named _ levels _ _ => levelBuiltIns levels
  | array element _ _ => builtIns element
  | pointer pointee => builtIns pointee
  | nullable underlying => builtIns underlying

def levelBuiltIns : List (Level Descriptor) → List String
  | [] => []
  | ⟨_, arguments⟩ :: rest => argumentBuiltIns arguments ++ levelBuiltIns rest

def argumentBuiltIns : List Descriptor → List String
  | [] => []
  | d :: rest => builtIns d ++ argumentBuiltIns rest

end

/-- The identifiers that a name shows, from left to right. -/
def shownIdentifiers (d : Descriptor) : List Text := d.words.filterMap Word.identifier?

section keywords

theorem words_named_cases (segments : List Text) (levels : List (Level Descriptor))
    (valueType : Option Bool) (wellKnown : Option WellKnown) :
    (∃ name u, levels = [⟨name, [u]⟩] ∧
        (named segments levels valueType wellKnown).words = u.words) ∨
      (named segments levels valueType wellKnown).words =
        segments.map .identifier ++ levelWords levels := by
  rw [words.eq_def]
  simp only
  split
  · exact .inl ⟨_, _, rfl, rfl⟩
  · exact .inr rfl

/-- The keywords among the texts of words. -/
def keywordTexts (ws : List Word) : List Text := (ws.map Word.text).filter isKeyword

@[simp] theorem keywordTexts_append (ws vs : List Word) :
    keywordTexts (ws ++ vs) = keywordTexts ws ++ keywordTexts vs := by
  simp [keywordTexts]

@[simp] theorem keywordTexts_identifier (name : Text) (ws : List Word) :
    keywordTexts (.identifier name :: ws) = keywordTexts ws := by
  simp [keywordTexts, Word.text, Identifier.isKeyword_display]

theorem keywordTexts_segments (segments : List Text) :
    keywordTexts (segments.map .identifier) = [] := by
  induction segments with
  | nil => rfl
  | cons segment segments ih => rw [List.map_cons, keywordTexts_identifier, ih]

mutual

theorem keywordTexts_words : ∀ d : Descriptor, keywordTexts d.words = d.builtIns.map Text.ofString
  | primitive type => by
    have isMarked := Identifier.isKeyword_ofString (Identifier.keyword_mem_marked type)
    simp [words, builtIns, keywordTexts, Word.text, isMarked]
  | void => by decide +kernel
  | parameter name => by
    rw [words, keywordTexts_identifier, builtIns]
    rfl
  | named segments levels valueType wellKnown => by
    have inner := keywordTexts_levelWords levels
    rw [builtIns, ← inner]
    rcases words_named_cases segments levels valueType wellKnown with ⟨name, u, rfl, same⟩ | same
    · simp [same, levelWords, argumentWords]
    · simp [same, keywordTexts_segments]
  | array e _ _ => by rw [words, builtIns, keywordTexts_words e]
  | pointer p => by rw [words, builtIns, keywordTexts_words p]
  | nullable u => by rw [words, builtIns, keywordTexts_words u]

theorem keywordTexts_levelWords : ∀ levels : List (Level Descriptor),
    keywordTexts (levelWords levels) = (levelBuiltIns levels).map Text.ofString
  | [] => rfl
  | ⟨name, arguments⟩ :: rest => by
    rw [levelWords, levelBuiltIns, keywordTexts_identifier, keywordTexts_append, List.map_append,
      keywordTexts_argumentWords arguments, keywordTexts_levelWords rest]

theorem keywordTexts_argumentWords : ∀ arguments : List Descriptor,
    keywordTexts (argumentWords arguments) = (argumentBuiltIns arguments).map Text.ofString
  | [] => rfl
  | d :: rest => by
    rw [argumentWords, argumentBuiltIns, keywordTexts_append, List.map_append,
      keywordTexts_words d, keywordTexts_argumentWords rest]

end

/-! ### Marked words -/

theorem mem_argumentWords {w : Word} {arguments : List Descriptor} :
    w ∈ argumentWords arguments ↔ ∃ a ∈ arguments, w ∈ a.words := by
  induction arguments with
  | nil => simp [argumentWords]
  | cons a arguments ih => simp [argumentWords, ih]

theorem mem_levelWords {w : Word} {levels : List (Level Descriptor)} :
    w ∈ levelWords levels ↔
      (∃ level ∈ levels, w = .identifier level.name) ∨ ∃ a ∈ argumentsOf levels, w ∈ a.words := by
  induction levels with
  | nil => simp [levelWords, argumentsOf]
  | cons level levels ih =>
    have split : ∀ a, a ∈ argumentsOf (level :: levels) ↔
        a ∈ level.arguments ∨ a ∈ argumentsOf levels := by
      simp [argumentsOf]
    simp only [levelWords, List.mem_cons, List.mem_append, ih, mem_argumentWords, split, or_and_right,
      exists_or, exists_eq_left]
    exact (or_congr_right or_left_comm).trans or_assoc.symm

/-- The identifiers that are shown are identifiers of the descriptor. -/
theorem isOneWord_of_mem_words {d : Descriptor} (oneWord : HasOneWordIdentifiers d) {name : Text}
    (h : .identifier name ∈ d.words) : IsOneWord name := by
  induction d using partsInduction with
  | step d ih =>
    obtain ⟨own, below⟩ := hasOneWordIdentifiers_iff.1 oneWord
    cases d with
    | primitive _ | void => simp [words] at h
    | parameter name' =>
      obtain rfl : name = name' := by simpa [words] using h
      exact own name (by simp [ownIdentifiers])
    | named segments levels valueType wellKnown =>
      rcases words_named_cases segments levels valueType wellKnown with
        ⟨name', u, rfl, same⟩ | same
      · have isPart : u ∈ (named segments [⟨name', [u]⟩] valueType wellKnown).parts := by
          simp [parts, argumentsOf]
        exact ih u isPart (below u isPart) (same ▸ h)
      · rw [same, List.mem_append, mem_levelWords] at h
        rcases h with isSegment | ⟨level, isLevel, isName⟩ | ⟨a, isArgument, inside⟩
        · exact own name (List.mem_append_left _ (by simpa using isSegment))
        · obtain rfl := Word.identifier.inj isName
          exact own _ (List.mem_append_right _ (List.mem_map_of_mem isLevel))
        · exact ih a isArgument (below a isArgument) inside
    | array e _ _ | pointer e | nullable e =>
      rw [words] at h
      exact ih e (by simp [parts]) (below e (by simp [parts])) h

theorem marker_mem_display_iff {name : Text} (unmarked : marker ∉ name) :
    marker ∈ display true name ↔ isKeyword name = true := by
  cases keyword : isKeyword name <;> simp [display, keyword, unmarked]

theorem markedTexts {ws : List Word} (unmarked : ∀ name, .identifier name ∈ ws → marker ∉ name) :
    ((ws.map Word.text).filter fun text ↦ decide (marker ∈ text)) =
      ((ws.filterMap Word.identifier?).filter isKeyword).map (marker :: ·) := by
  induction ws with
  | nil => rfl
  | cons w ws ih =>
    have rest := ih fun name member ↦ unmarked name (List.mem_cons_of_mem _ member)
    cases w with
    | primitive type =>
      have noMarker :=
        Identifier.marker_notMem_of_mem_marked (Identifier.keyword_mem_marked type)
      simp [Word.text, List.filterMap_cons, Word.identifier?, noMarker, rest]
    | void =>
      have noMarker : marker ∉ Text.ofString "void" := by decide
      simp [Word.text, List.filterMap_cons, Word.identifier?, noMarker, rest]
    | identifier name =>
      have isMarked := marker_mem_display_iff (unmarked name (by simp))
      cases keyword : isKeyword name with
      | true => simp [Word.text, Word.identifier?, keyword, rest, display]
      | false => simp [Word.text, Word.identifier?, isMarked, keyword, rest]

end keywords

/-- A name falls into the words of its descriptor.  The keywords among its tokens are the built-in
types from left to right, and those with a marker are the identifiers that are shown and are
keywords, each behind its marker. -/
theorem keywords_of_displayName {d : Descriptor} {text : Text}
    (oneWord : HasOneWordIdentifiers d) (h : d.displayName = .ok text) :
    text.words = shown d.words ∧
      text.tokens.filter isKeyword = d.builtIns.map Text.ofString ∧
      (text.tokens.filter fun token ↦ decide (marker ∈ token)) =
        (d.shownIdentifiers.filter isKeyword).map (marker :: ·) := by
  have fallsIntoWords := words_displayName oneWord h
  have unmarked : ∀ name, .identifier name ∈ d.words → marker ∉ name := fun name member isIn ↦
    ((isOneWord_of_mem_words oneWord member).1 marker isIn).2 rfl
  -- An empty token is no keyword and holds no marker, so only the words count.
  have kept : ∀ keep : Text → Bool, keep [] = false →
      text.tokens.filter keep = (d.words.map Word.text).filter keep := by
    intro keep dropsEmpty
    rw [← Text.filter_nonempty dropsEmpty, ← Text.words, fallsIntoWords, shown,
      Text.filter_nonempty dropsEmpty]
  refine ⟨fallsIntoWords, ?_, ?_⟩
  · rw [kept isKeyword (by decide), ← keywordTexts, keywordTexts_words]
  · rw [kept _ (by decide), markedTexts unmarked, shownIdentifiers]

/-- A type in which keywords are a segment, a level, a parameter and a built-in type, with a
wrapper whose own name is not shown. -/
def keywordBox : Descriptor :=
  array
    (named ["void"]
      [⟨"class",
        [parameter "int",
          named ["System"] [⟨"Nullable", [primitive .int]⟩] (some true) (some .nullable)]⟩]
      none none) 2 false

theorem keywords_of_keywordBox :
    let name : Text := "@void.@class<@int, int?>[,]"
    HasOneWordIdentifiers keywordBox ∧ keywordBox.displayName = .ok name ∧
      name.words = (["@void", "@class", "@int", "int"] : List Text) ∧
      name.tokens.filter isKeyword = (["int"] : List Text) ∧
      (name.tokens.filter fun token ↦ decide (marker ∈ token)) =
        (["@void", "@class", "@int"] : List Text) := by
  intro name
  have oneWord : HasOneWordIdentifiers keywordBox := by
    rw [keywordBox, hasOneWordIdentifiers_iff]
    refine ⟨by decide, ?_⟩
    simp only [parts, List.mem_singleton, forall_eq]
    rw [hasOneWordIdentifiers_iff]
    refine ⟨by decide +kernel, ?_⟩
    simp only [parts, argumentsOf, List.flatMap_cons, List.flatMap_nil, List.append_nil,
      List.mem_cons, List.not_mem_nil, or_false, forall_eq_or_imp, forall_eq]
    rw [hasOneWordIdentifiers_iff, hasOneWordIdentifiers_iff]
    refine ⟨⟨by decide +kernel, by simp [parts]⟩, by decide +kernel, ?_⟩
    simp only [parts, argumentsOf, List.flatMap_cons, List.flatMap_nil, List.append_nil,
      List.mem_singleton, forall_eq]
    rw [hasOneWordIdentifiers_iff]
    exact ⟨by decide, by simp [parts]⟩
  have named : keywordBox.displayName = .ok name := rfl
  obtain ⟨isWords, areKeywords, areMarked⟩ := keywords_of_displayName oneWord named
  refine ⟨oneWord, named, ?_, ?_, ?_⟩
  · rw [isWords]
    decide +kernel
  · rw [areKeywords]
    rfl
  · rw [areMarked]
    decide +kernel

end Descriptor
end TypeDisplay
