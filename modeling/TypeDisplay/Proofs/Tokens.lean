import TypeDisplay.Proofs.Levels
import TypeDisplay.Proofs.Malformed
import TypeDisplay.Proofs.Words

/-!
# Tokens of names

A name that is cut at its delimiters and blanks falls into tokens.  Those that are not empty are
the built-in types and the identifiers that are shown, in the order in which they stand in the
descriptor.
-/

namespace TypeDisplay

namespace Text

/-- The characters between the words of a name. -/
def separators : Text := ".<>,*[]? "

def AreSeparators (text : Text) : Prop := ∀ p ∈ text, p ∈ separators

instance (text : Text) : Decidable (AreSeparators text) :=
  inferInstanceAs (Decidable (∀ p ∈ text, p ∈ separators))

/-- A text cut at each separator. -/
def tokens (text : Text) : List Text :=
  text.splitOnP fun p ↦ decide (p ∈ separators)

/-- The texts that are not empty. -/
def nonempty (texts : List Text) : List Text :=
  texts.filter fun text ↦ !text.isEmpty

def words (text : Text) : List Text := nonempty text.tokens

@[simp] theorem nonempty_append (as bs : List Text) :
    nonempty (as ++ bs) = nonempty as ++ nonempty bs := by
  simp [nonempty]

theorem filter_nonempty {keep : Text → Bool} (dropsEmpty : keep [] = false) (texts : List Text) :
    (nonempty texts).filter keep = texts.filter keep := by
  rw [nonempty, List.filter_filter]
  refine List.filter_congr fun text _ ↦ ?_
  cases text with
  | nil => simp [dropsEmpty]
  | cons p text => simp

/-! ### Words of concatenations -/

theorem AreSeparators.append {r r' : Text} (hr : AreSeparators r) (hr' : AreSeparators r') :
    AreSeparators (r ++ r') :=
  List.forall_mem_append.2 ⟨hr, hr'⟩

theorem areSeparators_rankToken (rank : Int) : AreSeparators (rankToken rank) := by
  have brackets : CodePoint.char '[' ∈ separators ∧ CodePoint.char ']' ∈ separators := by decide
  have comma : CodePoint.char ',' ∈ separators := by decide
  simp +contextual [AreSeparators, rankToken, List.mem_replicate, brackets, comma, or_imp]

theorem words_append_cons {p : CodePoint} (isSeparator : p ∈ separators) (a b : Text) :
    words (a ++ p :: b) = a.words ++ b.words := by
  rw [words, tokens, List.splitOnP_append_cons a b (by simpa using isSeparator), nonempty_append]
  rfl

theorem words_separators_append {r : Text} (hr : AreSeparators r) (a : Text) :
    words (r ++ a) = a.words := by
  induction r with
  | nil => rfl
  | cons p r ih =>
    obtain ⟨isSeparator, rest⟩ := List.forall_mem_cons.1 hr
    exact (words_append_cons isSeparator [] (r ++ a)).trans (ih rest)

theorem words_append_separators {r : Text} (hr : AreSeparators r) (a : Text) :
    words (a ++ r) = a.words := by
  cases r with
  | nil => rw [List.append_nil]
  | cons p r =>
    obtain ⟨isSeparator, rest⟩ := List.forall_mem_cons.1 hr
    have none : words (r ++ []) = [] := words_separators_append rest []
    rw [List.append_nil] at none
    rw [words_append_cons isSeparator, none, List.append_nil]

theorem words_separated {sep : Text} (hsep : AreSeparators sep) (nonempty : sep ≠ []) (a b : Text) :
    words (a ++ (sep ++ b)) = a.words ++ b.words := by
  obtain ⟨p, rest, rfl⟩ := List.exists_cons_of_ne_nil nonempty
  obtain ⟨isSeparator, areSeparators⟩ := List.forall_mem_cons.1 hsep
  rw [List.cons_append, words_append_cons isSeparator, words_separators_append areSeparators]

theorem words_intercalate {sep : Text} (hsep : AreSeparators sep) (nonempty : sep ≠ [])
    (texts : List Text) : words (sep.intercalate texts) = texts.flatMap words := by
  cases texts with
  | nil => rfl
  | cons a texts =>
    rw [intercalate_cons, List.flatMap_cons]
    induction texts generalizing a with
    | nil => simp
    | cons b texts ih =>
      rw [List.flatMap_cons, List.append_assoc, words_separated hsep nonempty, ih b,
        List.flatMap_cons]

theorem words_of_clear {word : Text} (clear : ∀ p ∈ word, p ∉ separators) :
    words word = nonempty [word] := by
  rw [words, tokens, List.splitOnP_eq_singleton fun p member ↦ by simpa using clear p member]

end Text

/-! ### Identifiers of one word -/

namespace Identifier

open Text (separators)

/-- An identifier that is not cut and does not hold the marker. -/
def IsOneWord (identifier : Text) : Prop :=
  IsPlain identifier ∧ .char ' ' ∉ identifier

instance (identifier : Text) : Decidable (IsOneWord identifier) :=
  inferInstanceAs (Decidable (_ ∧ _))

theorem mem_separators_iff {p : CodePoint} :
    p ∈ separators ↔ p ∈ Text.delimiters ∨ p = .char ' ' := by
  have split : separators = Text.delimiters ++ [.char ' '] := by decide
  rw [split, List.mem_append, List.mem_singleton]

theorem IsOneWord.clear_display {identifier : Text} (h : IsOneWord identifier) :
    ∀ p ∈ display true identifier, p ∉ separators := by
  intro p member isSeparator
  rcases mem_separators_iff.1 isSeparator with isDelimiter | rfl
  · exact h.1.isWord_display p member isDelimiter
  · rw [display] at member
    split at member
    · have notMarker : CodePoint.char ' ' ≠ marker := by decide
      exact h.2 ((List.mem_cons.1 member).resolve_left notMarker)
    · exact h.2 member

end Identifier

/-! ### Words of descriptors -/

/-- What stands between the separators of a name. -/
inductive Word where
  | primitive (type : Primitive)
  | void
  | identifier (name : Text)

namespace Word

def text : Word → Text
  | primitive type => type.keyword
  | void => "void"
  | identifier name => Identifier.display true name

def identifier? : Word → Option Text
  | identifier name => some name
  | _ => none

/-- The texts of words, less those of empty identifiers. -/
def shown (ws : List Word) : List Text := Text.nonempty (ws.map text)

@[simp] theorem shown_append (ws vs : List Word) : shown (ws ++ vs) = shown ws ++ shown vs := by
  simp [shown]

theorem shown_cons (w : Word) (ws : List Word) : shown (w :: ws) = shown [w] ++ shown ws :=
  shown_append [w] ws

end Word

namespace Descriptor

open Identifier (IsOneWord display)
open Text (AreSeparators)
open Word (shown)

mutual

/-- The built-in types and identifiers that a name shows, from left to right.  A wrapper shows
what it wraps and not its own name. -/
def words : Descriptor → List Word
  | primitive type => [.primitive type]
  | void => [.void]
  | parameter name => [.identifier name]
  | named segments levels valueType wellKnown =>
      match isNullableWrapper (named segments levels valueType wellKnown), levels with
      | true, [⟨_, [u]⟩] => words u
      | _, levels => segments.map .identifier ++ levelWords levels
  | array element _ _ => words element
  | pointer pointee => words pointee
  | nullable underlying => words underlying

def levelWords : List (Level Descriptor) → List Word
  | [] => []
  | ⟨name, arguments⟩ :: rest => .identifier name :: (argumentWords arguments ++ levelWords rest)

def argumentWords : List Descriptor → List Word
  | [] => []
  | d :: rest => words d ++ argumentWords rest

end

/-- No identifier at any depth is cut, and none holds the marker. -/
def HasOneWordIdentifiers (d : Descriptor) : Prop :=
  ∀ s, Occurs s d → ∀ identifier ∈ s.ownIdentifiers, IsOneWord identifier

theorem hasOneWordIdentifiers_iff {d : Descriptor} :
    HasOneWordIdentifiers d ↔ (∀ identifier ∈ d.ownIdentifiers, IsOneWord identifier) ∧
      ∀ c ∈ d.parts, HasOneWordIdentifiers c :=
  forall_occurs_iff

section named

variable {segments : List Text} {valueType : Option Bool} {wellKnown : Option WellKnown}

theorem words_wrapper {name : Text} {u : Descriptor}
    (h : isNullableWrapper (named segments [⟨name, [u]⟩] valueType wellKnown) = true) :
    (named segments [⟨name, [u]⟩] valueType wellKnown).words = u.words := by
  rw [words.eq_def]
  simp only [h]

theorem words_named {levels : List (Level Descriptor)}
    (h : isNullableWrapper (named segments levels valueType wellKnown) = false) :
    (named segments levels valueType wellKnown).words =
      segments.map .identifier ++ levelWords levels := by
  rw [words.eq_def]
  simp only [h]

end named

/-! ### Words of names -/

section names

theorem words_keyword (type : Primitive) :
    (Text.ofString type.keyword).words = shown [.primitive type] := by
  refine Text.words_of_clear ?_
  cases type <;> decide

theorem words_void : (Text.ofString "void").words = shown [.void] :=
  Text.words_of_clear (by decide)

theorem words_display {name : Text} (oneWord : IsOneWord name) :
    (display true name).words = shown [.identifier name] :=
  Text.words_of_clear oneWord.clear_display

theorem words_segments {segments : List Text} (oneWord : ∀ segment ∈ segments, IsOneWord segment) :
    (segments.map (display true)).flatMap Text.words = shown (segments.map .identifier) := by
  induction segments with
  | nil => rfl
  | cons segment segments ih =>
    obtain ⟨first, rest⟩ := List.forall_mem_cons.1 oneWord
    rw [List.map_cons, List.flatMap_cons, words_display first, ih rest, ← Word.shown_append]
    rfl

theorem words_levelText (name : Text) (texts : List Text) :
    (levelText true name texts).words = (display true name).words ++ texts.flatMap Text.words := by
  cases texts with
  | nil => simp [levelText]
  | cons text texts =>
    rw [levelText, List.isEmpty_cons, if_neg Bool.false_ne_true,
      Text.words_append_separators (by decide), List.append_assoc,
      Text.words_separated (by decide) (by decide),
      Text.words_intercalate (by decide) (by decide)]

theorem words_namedText (segments texts : List Text) :
    (namedText true segments texts).words =
      (segments.map (display true)).flatMap Text.words ++ texts.flatMap Text.words := by
  rw [namedText, Text.words_intercalate (by decide) (by decide), List.flatMap_append]

/-- The name of a descriptor falls into its words. -/
def FallsIntoWords (d : Descriptor) : Prop :=
  ∀ text, d.displayName = .ok text → Text.words text = shown d.words

theorem words_argumentNames {arguments : List Descriptor} {texts : List Text}
    (each : ∀ a ∈ arguments, FallsIntoWords a)
    (h : argumentNames true arguments = .ok texts) :
    texts.flatMap Text.words = shown (argumentWords arguments) := by
  induction arguments generalizing texts with
  | nil =>
    obtain rfl := Except.ok.inj h
    rfl
  | cons a arguments ih =>
    obtain ⟨first, rest⟩ := List.forall_mem_cons.1 each
    rw [argumentNames, except_bind_eq_ok_iff] at h
    obtain ⟨text, named, h⟩ := h
    obtain ⟨others, areNamed, rfl⟩ := except_map_eq_ok_iff.1 h
    rw [List.flatMap_cons, first text named, ih rest areNamed, argumentWords, Word.shown_append]

theorem words_levelNames {levels : List (Level Descriptor)} {texts : List Text}
    (names : ∀ level ∈ levels, IsOneWord level.name)
    (each : ∀ a ∈ argumentsOf levels, FallsIntoWords a)
    (h : levelNames true levels = .ok texts) :
    texts.flatMap Text.words = shown (levelWords levels) := by
  induction levels generalizing texts with
  | nil =>
    obtain rfl := Except.ok.inj h
    rfl
  | cons level levels ih =>
    obtain ⟨name, arguments⟩ := level
    obtain ⟨isName, areNames⟩ := List.forall_mem_cons.1 names
    rw [argumentsOf, List.flatMap_cons, List.forall_mem_append] at each
    obtain ⟨inArguments, inRest⟩ := each
    rw [levelNames, except_bind_eq_ok_iff] at h
    obtain ⟨own, named, h⟩ := h
    obtain ⟨others, areNamed, rfl⟩ := except_map_eq_ok_iff.1 h
    rw [List.flatMap_cons, words_levelText, words_display isName,
      words_argumentNames inArguments named, ih areNames inRest areNamed, levelWords,
      Word.shown_cons _ (argumentWords arguments ++ levelWords levels), Word.shown_append,
      List.append_assoc]

theorem words_wrappedName {u : Descriptor} {text : Text} (falls : FallsIntoWords u)
    (h : wrappedName true u = .ok text) : text.words = shown u.words := by
  obtain ⟨-, inner, named, rfl⟩ := (wrappedName_eq_ok_iff true).1 h
  rw [Text.words_append_separators (by decide), falls inner named]

/-- The layers that are pending behind a name hold no words. -/
theorem words_nameBefore {d : Descriptor} {run layers text : Text}
    (oneWord : HasOneWordIdentifiers d) (hrun : AreSeparators run)
    (hlayers : AreSeparators layers) (h : nameBefore true d run layers = .ok text) :
    text.words = shown d.words := by
  induction d using partsInduction generalizing run layers text with
  | step d ih =>
    obtain ⟨own, below⟩ := hasOneWordIdentifiers_iff.1 oneWord
    -- What is wrapped and what is an argument begin with nothing pending.
    have inside : ∀ c ∈ d.parts, FallsIntoWords c := fun c isPart text named ↦
      ih c isPart (below c isPart) (by simp [AreSeparators]) (by simp [AreSeparators]) named
    have behind : AreSeparators (run ++ layers) := hrun.append hlayers
    cases d with
    | primitive type =>
      obtain rfl := Except.ok.inj h
      rw [Text.words_append_separators behind, words_keyword, words]
    | void =>
      obtain rfl := Except.ok.inj h
      rw [Text.words_append_separators behind, words_void, words]
    | parameter name =>
      obtain rfl := Except.ok.inj h
      have isName : IsOneWord name := own name (by simp [ownIdentifiers])
      rw [Text.words_append_separators behind, words_display isName, words]
    | pointer p =>
      have star : AreSeparators ("*" : Text) := by decide
      rw [nameBefore] at h
      rw [words]
      exact ih p (by simp [parts]) (below p (by simp [parts])) (by simp [AreSeparators])
        (star.append behind) h
    | array e rank m =>
      rw [nameBefore] at h
      rw [words]
      exact ih e (by simp [parts]) (below e (by simp [parts]))
        (hrun.append (Text.areSeparators_rankToken rank)) hlayers h
    | nullable u =>
      rw [nameBefore_nullable] at h
      obtain ⟨name, wrapped, rfl⟩ := except_map_eq_ok_iff.1 h
      rw [Text.words_append_separators behind, words,
        words_wrappedName (inside u (by simp [parts])) wrapped]
    | named segments levels valueType wellKnown =>
      rcases named_cases segments levels valueType wellKnown with
        ordinary | ⟨wrapper, ⟨_, u, rfl⟩ | other⟩
      · rw [nameBefore_named true ordinary] at h
        obtain ⟨texts, named, rfl⟩ := except_map_eq_ok_iff.1 h
        have areNames : ∀ level ∈ levels, IsOneWord level.name := fun level member ↦
          own level.name (List.mem_append_right _ (List.mem_map_of_mem member))
        have areSegments : ∀ segment ∈ segments, IsOneWord segment := fun segment member ↦
          own segment (List.mem_append_left _ member)
        rw [Text.words_append_separators behind, words_namedText, words_segments areSegments,
          words_levelNames areNames inside named, words_named ordinary, Word.shown_append]
      · rw [nameBefore_wrapper true wrapper] at h
        obtain ⟨name, wrapped, rfl⟩ := except_map_eq_ok_iff.1 h
        rw [Text.words_append_separators behind, words_wrapper wrapper,
          words_wrappedName (inside u (by simp [parts, argumentsOf])) wrapped]
      · rw [nameBefore_wrapper_arity true wrapper other] at h
        cases h

theorem words_displayName {d : Descriptor} {text : Text} (oneWord : HasOneWordIdentifiers d)
    (h : d.displayName = .ok text) : text.words = shown d.words :=
  words_nameBefore oneWord (by simp [AreSeparators]) (by simp [AreSeparators]) h

end names

end Descriptor
end TypeDisplay
