import TypeDisplay.Proofs.Readable

/-!
# Names are read in one way

A name tells its skeleton, as long as no identifier holds a character that has a meaning in names.
The text of a skeleton is read from the left: a first word, which is a keyword only for a built-in
type, the arguments behind it, a question mark, and the layers.  At each place the next character
decides how to go on, so a text that is followed by nothing but a comma or the end of an argument
list ends in one place only.
-/

namespace TypeDisplay
namespace Skeleton

open Descriptor (Layer levelText)
open Identifier (IsPlain)
open Text (BeginsWith IsWord EndsIn others beginsWith_others delimiters intercalate_cons
  separated_append_inj)

/-! ### Layers -/

theorem commas_append_inj {m n : Nat} {x y : Text}
    (h : List.replicate m (.char ',') ++ .char ']' :: x =
      List.replicate n (.char ',') ++ .char ']' :: y) : m = n ∧ x = y := by
  induction m generalizing n with
  | zero =>
    cases n with
    | zero => simpa using h
    | succ n => simp [List.replicate_succ] at h
  | succ m ih =>
    cases n with
    | zero => simp [List.replicate_succ] at h
    | succ n =>
      obtain ⟨same, rest⟩ := ih (by simpa [List.replicate_succ] using h)
      exact ⟨congrArg (· + 1) same, rest⟩

theorem rankToken_append_inj {q r : Int} {x y : Text} (hq : 1 ≤ q) (hr : 1 ≤ r)
    (h : rankToken q ++ x = rankToken r ++ y) : q = r ∧ x = y := by
  have commas : List.replicate (q - 1).toNat (.char ',') ++ .char ']' :: x =
      List.replicate (r - 1).toNat (.char ',') ++ .char ']' :: y := by
    simpa [rankToken] using h
  obtain ⟨same, rest⟩ := commas_append_inj commas
  exact ⟨by omega, rest⟩

/-- What may follow a name. -/
def nameEnds : Text := ">,"

theorem layersText_cons_append (layer : Layer) (ls : List Layer) (r : Text) :
    layersText (layer :: ls) ++ r = layer.text ++ (layersText ls ++ r) := by
  simp [layersText]

theorem not_beginsWith_nameEnds (layer : Layer) (ls : List Layer) (r : Text) :
    ¬ BeginsWith nameEnds (layersText (layer :: ls) ++ r) := by
  cases layer <;> simp [layersText, Layer.text, rankToken, nameEnds, Text.ofString, Text.ofChars]

theorem layersText_append_inj {ls ms : List Layer} {r r' : Text} (positiveL : ArePositive ls)
    (positiveM : ArePositive ms) (hr : BeginsWith nameEnds r) (hr' : BeginsWith nameEnds r')
    (h : layersText ls ++ r = layersText ms ++ r') : ls = ms ∧ r = r' := by
  induction ls generalizing ms with
  | nil =>
    cases ms with
    | nil => exact ⟨rfl, h⟩
    | cons layer ms =>
      obtain rfl : r = layersText (layer :: ms) ++ r' := h
      exact absurd hr (not_beginsWith_nameEnds layer ms r')
  | cons layer ls ih =>
    cases ms with
    | nil =>
      obtain rfl : layersText (layer :: ls) ++ r = r' := h
      exact absurd hr' (not_beginsWith_nameEnds layer ls r)
    | cons other ms =>
      rw [layersText_cons_append, layersText_cons_append] at h
      have first : layer = other ∧ layersText ls ++ r = layersText ms ++ r' := by
        cases layer with
        | pointer =>
          cases other with
          | pointer => exact ⟨rfl, List.append_cancel_left h⟩
          | array rank => simp [Layer.text, rankToken, Text.ofString, Text.ofChars] at h
        | array rank =>
          cases other with
          | pointer => simp [Layer.text, rankToken, Text.ofString, Text.ofChars] at h
          | array rank' =>
            obtain ⟨rfl, rest⟩ := rankToken_append_inj (positiveL rank (by simp))
              (positiveM rank' (by simp)) h
            exact ⟨rfl, rest⟩
      obtain ⟨rfl, rest⟩ := first
      obtain ⟨rfl, same⟩ := ih (fun rank member ↦ positiveL rank (by simp [member]))
        (fun rank member ↦ positiveM rank (by simp [member])) rest
      exact ⟨rfl, same⟩

/-! ### Parts -/

theorem argumentTexts_eq_map (arguments : List Skeleton) :
    argumentTexts arguments = arguments.map text := by
  induction arguments with
  | nil => rfl
  | cons s arguments ih => simp [argumentTexts, text, ih]

/-- How the arguments of a part are written behind its name. -/
def argumentsText : List Skeleton → Text
  | [] => []
  | s :: rest =>
      .char '<' :: (s.text ++ others text (.char ',') [.char ' '] rest) ++ [.char '>']

def partText (part : Level Skeleton) : Text :=
  Identifier.display true part.name ++ argumentsText part.arguments

theorem partTexts_eq_map (parts : List (Level Skeleton)) :
    partTexts parts = parts.map partText := by
  induction parts with
  | nil => rfl
  | cons part parts ih =>
    obtain ⟨name, arguments⟩ := part
    cases arguments with
    | nil => simp [partTexts, argumentTexts, levelText, partText, argumentsText, ih]
    | cons s rest =>
      simp [partTexts, argumentTexts_eq_map, levelText, partText, argumentsText, ih,
        intercalate_cons, others, List.flatMap_map, Text.ofString, Text.ofChars]

/-! ### Names -/

/-- What may follow a part of a path. -/
def partEnds : Text := ".?*[>,"

/-- What may follow a base. -/
def baseEnds : Text := "?*[>,"

/-- What may follow a core. -/
def coreEnds : Text := "*[>,"

theorem beginsWith_argumentsText (xs : List Skeleton) {r : Text} (hr : BeginsWith delimiters r) :
    BeginsWith delimiters (argumentsText xs ++ r) := by
  cases xs with
  | nil => exact hr
  | cons s xs =>
    simp only [argumentsText, List.cons_append, Text.beginsWith_cons]
    decide

theorem argumentsText_append_inj {xs ys : List Skeleton}
    (each : ∀ s ∈ xs, EndsIn text IsReadable nameEnds s) (readable : ∀ s ∈ ys, IsReadable s)
    {r r' : Text} (hr : BeginsWith partEnds r) (hr' : BeginsWith partEnds r')
    (h : argumentsText xs ++ r = argumentsText ys ++ r') : xs = ys ∧ r = r' := by
  cases xs with
  | nil =>
    cases ys with
    | nil => exact ⟨rfl, h⟩
    | cons s ys =>
      rw [argumentsText, List.nil_append] at h
      rw [h] at hr
      exact absurd (Text.beginsWith_cons.1 hr) (by decide)
  | cons s xs =>
    cases ys with
    | nil =>
      rw [argumentsText, argumentsText, List.nil_append] at h
      rw [← h] at hr'
      exact absurd (Text.beginsWith_cons.1 hr') (by decide)
    | cons s' ys =>
      have inside : s.text ++ (others text (.char ',') [.char ' '] xs ++ .char '>' :: r) =
          s'.text ++ (others text (.char ',') [.char ' '] ys ++ .char '>' :: r') := by
        simpa [argumentsText] using h
      have isMark : .char ',' ∈ nameEnds := by decide
      have isNoEnd : .char ',' ∉ ([.char '>'] : Text) := by decide
      obtain ⟨same, ended⟩ := separated_append_inj isMark isNoEnd (by decide) each readable
        (Text.beginsWith_cons.2 (by simp)) (Text.beginsWith_cons.2 (by simp)) inside
      exact ⟨same, (List.cons.inj ended).2⟩

def IsReadablePart (part : Level Skeleton) : Prop :=
  IsPlain part.name ∧ ∀ s ∈ part.arguments, IsReadable s

theorem endsIn_partText {part : Level Skeleton} (plain : IsPlain part.name)
    (each : ∀ s ∈ part.arguments, EndsIn text IsReadable nameEnds s) :
    EndsIn partText IsReadablePart partEnds part := by
  rintro other ⟨plain', readable⟩ r r' hr hr' h
  obtain ⟨name, arguments⟩ := part
  obtain ⟨name', arguments'⟩ := other
  have areDelimiters : ∀ p ∈ partEnds, p ∈ delimiters := by decide
  simp only [partText, List.append_assoc] at h
  obtain ⟨sameDisplay, rest⟩ := IsWord.append_inj plain.isWord_display plain'.isWord_display
    (beginsWith_argumentsText _ (hr.mono areDelimiters))
    (beginsWith_argumentsText _ (hr'.mono areDelimiters)) h
  obtain rfl := plain.display_inj plain' sameDisplay
  obtain ⟨rfl, ended⟩ := argumentsText_append_inj each readable hr hr' rest
  exact ⟨rfl, ended⟩

theorem coreText_path (part : Level Skeleton) (parts : List (Level Skeleton)) :
    (path (part :: parts)).coreText = partText part ++ others partText (.char '.') [] parts := by
  rw [coreText, partTexts_eq_map, List.map_cons, intercalate_cons]
  simp [others, List.flatMap_map, Text.ofString, Text.ofChars]

theorem path_append_inj {parts parts' : List (Level Skeleton)}
    (h : IsReadable (path parts)) (h' : IsReadable (path parts'))
    (each : ∀ part ∈ parts, ∀ s ∈ part.arguments, EndsIn text IsReadable nameEnds s)
    {r r' : Text} (hr : BeginsWith baseEnds r) (hr' : BeginsWith baseEnds r')
    (same : (path parts).coreText ++ r = (path parts').coreText ++ r') :
    parts = parts' ∧ r = r' := by
  obtain ⟨nonempty, readable⟩ := isReadable_path_iff.1 h
  obtain ⟨nonempty', readable'⟩ := isReadable_path_iff.1 h'
  obtain ⟨part, parts, rfl⟩ := List.exists_cons_of_ne_nil nonempty
  obtain ⟨part', parts', rfl⟩ := List.exists_cons_of_ne_nil nonempty'
  rw [coreText_path, coreText_path, List.append_assoc, List.append_assoc] at same
  have eachPart : ∀ p ∈ part :: parts, EndsIn partText IsReadablePart partEnds p :=
    fun p member ↦ endsIn_partText (readable p member).1 (each p member)
  have isMark : .char '.' ∈ partEnds := by decide
  have isNoEnd : .char '.' ∉ baseEnds := by decide
  exact separated_append_inj isMark isNoEnd (by decide) eachPart readable' hr hr' same

theorem keyword_append_ne_path {s : Skeleton} {word : String} (h : s.keyword? = some word)
    {parts : List (Level Skeleton)} (readable : IsReadable (path parts)) {r r' : Text}
    (hr : BeginsWith baseEnds r) (hr' : BeginsWith baseEnds r') :
    s.coreText ++ r ≠ (path parts).coreText ++ r' := by
  intro same
  obtain ⟨isText, isMarked, isPlain⟩ := keyword?_spec h
  obtain ⟨nonempty, each⟩ := isReadable_path_iff.1 readable
  obtain ⟨part, parts, rfl⟩ := List.exists_cons_of_ne_nil nonempty
  have plain : IsPlain part.name := (each part (by simp)).1
  rw [isText, coreText_path, partText, List.append_assoc, List.append_assoc] at same
  have isWord : IsWord (word : Text) := fun p member ↦ (isPlain p member).1
  have inPart : BeginsWith delimiters
      (argumentsText part.arguments ++ (others partText (.char '.') [] parts ++ r')) := by
    apply beginsWith_argumentsText
    exact beginsWith_others (by decide) parts (hr'.mono (by decide))
  have words := IsWord.append_inj isWord plain.isWord_display (hr.mono (by decide)) inPart same
  exact Identifier.display_ne_keyword part.name isMarked isPlain words.1.symm

theorem IsBase.keyword?_or_path {s : Skeleton} (h : s.IsBase) :
    (∃ word, s.keyword? = some word) ∨ ∃ parts, s = path parts := by
  cases s with
  | primitive _ | void => exact .inl ⟨_, rfl⟩
  | path parts => exact .inr ⟨parts, rfl⟩
  | _ => exact h.elim

def IsReadableBase (s : Skeleton) : Prop := s.IsBase ∧ IsReadable s

theorem endsIn_coreText {b : Skeleton} (isBase : b.IsBase) (readable : IsReadable b)
    (each : ∀ parts, b = path parts → ∀ part ∈ parts, ∀ s ∈ part.arguments,
      EndsIn text IsReadable nameEnds s) :
    EndsIn coreText IsReadableBase baseEnds b := by
  rintro t ⟨isBase', readable'⟩ r r' hr hr' same
  rcases isBase.keyword?_or_path with ⟨word, hword⟩ | ⟨parts, rfl⟩
  · rcases isBase'.keyword?_or_path with ⟨word', hword'⟩ | ⟨parts', rfl⟩
    · obtain ⟨isText, -, isPlain⟩ := keyword?_spec hword
      obtain ⟨isText', -, isPlain'⟩ := keyword?_spec hword'
      rw [isText, isText'] at same
      obtain ⟨sameWord, rest⟩ := IsWord.append_inj (fun p member ↦ (isPlain p member).1)
        (fun p member ↦ (isPlain' p member).1) (hr.mono (by decide)) (hr'.mono (by decide)) same
      obtain rfl := Text.ofString_injective sameWord
      exact ⟨keyword?_inj hword hword', rest⟩
    · exact absurd same (keyword_append_ne_path hword readable' hr hr')
  · rcases isBase'.keyword?_or_path with ⟨word', hword'⟩ | ⟨parts', rfl⟩
    · exact absurd same.symm (keyword_append_ne_path hword' readable hr' hr)
    · obtain ⟨rfl, rest⟩ := path_append_inj readable readable' (each parts rfl) hr hr' same
      exact ⟨rfl, rest⟩

theorem coreText_nullable {b : Skeleton} (isBase : b.IsBase) :
    (nullable b).coreText = b.coreText ++ ("?" : Text) := by
  cases b with
  | primitive _ | void | path _ => simp [coreText, layers, layersText]
  | _ => exact isBase.elim

theorem core_append_inj {s t b c : Skeleton} (coreS : s.core = b ∨ s.core = .nullable b)
    (isBaseB : b.IsBase) (coreT : t.core = c ∨ t.core = .nullable c) (isBaseC : c.IsBase)
    (readable : IsReadable c)
    (base : EndsIn coreText IsReadableBase baseEnds b)
    {r r' : Text} (hr : BeginsWith coreEnds r) (hr' : BeginsWith coreEnds r')
    (same : s.core.coreText ++ r = t.core.coreText ++ r') : s.core = t.core ∧ r = r' := by
  have isMark : .char '?' ∈ baseEnds := by decide
  have isNoEnd : .char '?' ∉ coreEnds := by decide
  have areMarks : ∀ p ∈ coreEnds, p ∈ baseEnds := by decide
  have marked : ∀ x : Text, BeginsWith baseEnds (.char '?' :: x) :=
    fun x ↦ Text.beginsWith_cons.2 isMark
  -- With its question mark a nullable is its base, and the mark is what follows.
  have written : ∀ (u : Skeleton) (x : Text), u.IsBase →
      (nullable u).coreText ++ x = u.coreText ++ .char '?' :: x := by
    intro u x isBase
    simp [coreText_nullable isBase, Text.ofString, Text.ofChars]
  rcases coreS with coreS | coreS <;> rcases coreT with coreT | coreT <;>
    rw [coreS, coreT] at same ⊢
  · exact base c ⟨isBaseC, readable⟩ _ _ (hr.mono areMarks) (hr'.mono areMarks) same
  · rw [written c r' isBaseC] at same
    obtain ⟨-, rfl⟩ := base c ⟨isBaseC, readable⟩ _ _ (hr.mono areMarks) (marked r') same
    exact absurd (Text.beginsWith_cons.1 hr) isNoEnd
  · rw [written b r isBaseB] at same
    obtain ⟨-, rfl⟩ := base c ⟨isBaseC, readable⟩ _ _ (marked r) (hr'.mono areMarks) same
    exact absurd (Text.beginsWith_cons.1 hr') isNoEnd
  · rw [written b r isBaseB, written c r' isBaseC] at same
    obtain ⟨rfl, rest⟩ := base c ⟨isBaseC, readable⟩ _ _ (marked r) (marked r') same
    exact ⟨rfl, (List.cons.inj rest).2⟩

theorem beginsWith_layersText (ls : List Layer) {r : Text} (hr : BeginsWith nameEnds r) :
    BeginsWith coreEnds (layersText ls ++ r) := by
  cases ls with
  | nil => exact hr.mono (by decide)
  | cons layer ls =>
    cases layer <;>
      simp [layersText, Layer.text, rankToken, coreEnds, Text.ofString, Text.ofChars]

theorem endsIn_text_of_base {s b : Skeleton} (readable : IsReadable s)
    (coreS : s.core = b ∨ s.core = .nullable b) (isBase : b.IsBase)
    (base : EndsIn coreText IsReadableBase baseEnds b) :
    EndsIn text IsReadable nameEnds s := by
  intro t readable' r r' hr hr' same
  obtain ⟨c, readableC, isBaseC, coreT⟩ := readable'.core_eq
  simp only [text, List.append_assoc, ← coreText_core s, ← coreText_core t] at same
  obtain ⟨sameCore, rest⟩ := core_append_inj coreS isBase coreT isBaseC readableC base
    (beginsWith_layersText _ hr) (beginsWith_layersText _ hr') same
  have positive : ∀ {u : Skeleton}, IsReadable u → ArePositive (u.layers []) :=
    fun h ↦ h.arePositive_layers (by simp [ArePositive])
  obtain ⟨sameLayers, ended⟩ := layersText_append_inj (positive readable) (positive readable')
    hr hr' rest
  exact ⟨eq_of_core_of_layers sameCore sameLayers, ended⟩

theorem IsReadable.endsIn_base {s : Skeleton} (h : IsReadable s) {b : Skeleton}
    (coreS : s.core = b ∨ s.core = .nullable b) (isBase : b.IsBase) :
    EndsIn coreText IsReadableBase baseEnds b := by
  -- Layers have the core of what they are around, so only a path needs what is inside it.
  induction h generalizing b with
  | primitive type =>
    obtain rfl : Skeleton.primitive type = b := coreS.resolve_right (by simp [core])
    exact endsIn_coreText isBase (.primitive type) (by simp)
  | void =>
    obtain rfl : Skeleton.void = b := coreS.resolve_right (by simp [core])
    exact endsIn_coreText isBase .void (by simp)
  | @path parts nonempty names arguments ih =>
    obtain rfl : Skeleton.path parts = b := coreS.resolve_right (by simp [core])
    refine endsIn_coreText isBase (.path nonempty names arguments) ?_
    rintro _ ⟨⟩ part member s isArgument
    have readable := arguments part member s isArgument
    obtain ⟨c, -, isBaseC, coreC⟩ := readable.core_eq
    exact endsIn_text_of_base readable coreC isBaseC (ih part member s isArgument coreC isBaseC)
  | @nullable u isBaseU underlying ih =>
    have isOwn : u.core = u := by
      cases u with
      | primitive _ | void | path _ => rfl
      | _ => exact isBaseU.elim
    rcases coreS with rfl | same
    · exact isBase.elim
    · obtain rfl : u = b := Skeleton.nullable.inj same
      exact ih (.inl isOwn) isBase
  | array _ _ ih => exact ih coreS isBase
  | pointer _ ih => exact ih coreS isBase

/-- The text of a readable skeleton ends in one place and has one skeleton. -/
theorem IsReadable.endsIn_text {s : Skeleton} (h : IsReadable s) :
    EndsIn text IsReadable nameEnds s := by
  obtain ⟨b, -, isBase, coreS⟩ := h.core_eq
  exact endsIn_text_of_base h coreS isBase (h.endsIn_base coreS isBase)

theorem IsReadable.text_inj {s t : Skeleton} (hs : IsReadable s) (ht : IsReadable t)
    (same : s.text = t.text) : s = t :=
  (hs.endsIn_text t ht [] [] (Text.beginsWith_nil _) (Text.beginsWith_nil _) (by rw [same])).1

end Skeleton

namespace Descriptor

open Skeleton (IsReadable)

/-- Descriptors whose identifiers are plain have the same name exactly when they have the same
skeleton. -/
theorem displayName_eq_iff_skeleton_eq {a b : Descriptor} (wellFormedA : WellFormed a)
    (wellFormedB : WellFormed b) (plainA : HasPlainIdentifiers a) (plainB : HasPlainIdentifiers b)
    {s t : Text} (nameA : a.displayName = .ok s) (nameB : b.displayName = .ok t) :
    s = t ↔ a.skeleton = b.skeleton := by
  have readableA : IsReadable a.skeleton := isReadable_skeleton wellFormedA plainA ⟨s, nameA⟩
  have readableB : IsReadable b.skeleton := isReadable_skeleton wellFormedB plainB ⟨t, nameB⟩
  rw [displayName_eq_text nameA, displayName_eq_text nameB]
  exact ⟨readableA.text_inj readableB, congrArg Skeleton.text⟩

/-- A box in a namespace around a nullable. -/
def boxInNamespace : Descriptor :=
  named ["N"] [⟨"Box", [nullable (primitive .int)]⟩] none none

/-- A box in an outer level around a tagged wrapper. -/
def boxInLevel : Descriptor :=
  named [] [⟨"N", []⟩, ⟨"Box", [named ["System"] [⟨"Nullable", [primitive .int]⟩] none
    (some .nullable)]⟩] (some false) none

/-- The two boxes have one name, so they have one skeleton. -/
theorem skeleton_boxInNamespace :
    WellFormed boxInNamespace ∧ WellFormed boxInLevel ∧
      HasPlainIdentifiers boxInNamespace ∧ HasPlainIdentifiers boxInLevel ∧
      boxInNamespace.displayName = .ok "N.Box<int?>" ∧
      boxInLevel.displayName = .ok "N.Box<int?>" ∧
      boxInNamespace.skeleton = boxInLevel.skeleton := by
  have wellFormed : WellFormed boxInNamespace ∧ WellFormed boxInLevel := by
    simp [WellFormed, WellFormedLevels, WellFormedAll, boxInNamespace, boxInLevel]
  have int : HasPlainIdentifiers (primitive .int) :=
    hasPlainIdentifiers_iff.2 ⟨by decide, by simp [parts]⟩
  have plain : HasPlainIdentifiers boxInNamespace := by
    refine hasPlainIdentifiers_iff.2 ⟨by decide +kernel, ?_⟩
    simp only [boxInNamespace, parts, argumentsOf, List.flatMap_cons, List.flatMap_nil,
      List.append_nil, List.mem_singleton, forall_eq]
    exact hasPlainIdentifiers_iff.2 ⟨by decide, by simpa [parts] using int⟩
  have plain' : HasPlainIdentifiers boxInLevel := by
    refine hasPlainIdentifiers_iff.2 ⟨by decide +kernel, ?_⟩
    simp only [boxInLevel, parts, argumentsOf, List.flatMap_cons, List.flatMap_nil,
      List.nil_append, List.append_nil, List.mem_singleton, forall_eq]
    exact hasPlainIdentifiers_iff.2
      ⟨by decide +kernel, by simpa [parts, argumentsOf] using int⟩
  have name : boxInNamespace.displayName = .ok "N.Box<int?>" := rfl
  have name' : boxInLevel.displayName = .ok "N.Box<int?>" := rfl
  exact ⟨wellFormed.1, wellFormed.2, plain, plain', name, name',
    (displayName_eq_iff_skeleton_eq wellFormed.1 wellFormed.2 plain plain' name name').1 rfl⟩

end Descriptor
end TypeDisplay
