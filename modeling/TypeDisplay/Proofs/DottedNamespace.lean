import TypeDisplay.Proofs.Expression
import TypeDisplay.Proofs.Malformed
import TypeDisplay.Proofs.Words

/-!
# Dotted namespaces

A builder splits a dotted namespace into segments, and display joins them again.  Splitting and
joining undo each other for every text, also where pieces are empty; only the empty text has no
segment instead of an empty one.
-/

namespace TypeDisplay

/-! ### Pieces -/

def dot : CodePoint := .char '.'

/-- The text cut at each of its dots. -/
structure ArePieces (dotted : Text) (pieces : List Text) : Prop where
  joined : ("." : Text).intercalate pieces = dotted
  dotless : ∀ piece ∈ pieces, dot ∉ piece
  nonempty : pieces ≠ []

theorem of_mem_splitOnP {p : CodePoint → Bool} {text piece : Text}
    (member : piece ∈ text.splitOnP p) : ∀ c ∈ piece, p c = false := by
  induction text generalizing piece with
  | nil =>
    obtain rfl : piece = [] := by simpa using member
    simp
  | cons c text ih =>
    obtain ⟨first, rest, split⟩ := List.exists_cons_of_ne_nil (List.splitOnP_ne_nil p text)
    rw [List.splitOnP_cons_eq_if_modifyHead] at member
    split at member
    · rcases List.mem_cons.1 member with rfl | inRest
      · simp
      · exact ih inRest
    · rename_i notCut
      rw [split, List.modifyHead_cons] at member
      rcases List.mem_cons.1 member with rfl | inRest
      · have firstPart : ∀ d ∈ first, p d = false := ih (by simp [split])
        exact List.forall_mem_cons.2 ⟨by simpa using notCut, firstPart⟩
      · exact ih (by simp [split, inRest])

theorem arePieces_splitOn (dotted : Text) : ArePieces dotted (dotted.splitOn dot) where
  joined := List.intercalate_splitOn dot
  dotless := by
    intro piece member isDot
    rw [List.splitOn_eq_splitOnP] at member
    simpa using of_mem_splitOnP member dot isDot
  nonempty := List.splitOn_ne_nil dot dotted

theorem ArePieces.eq_splitOn {dotted : Text} {pieces : List Text} (h : ArePieces dotted pieces) :
    pieces = dotted.splitOn dot := by
  rw [← h.joined]
  exact (List.splitOn_intercalate dot h.dotless h.nonempty).symm

theorem intercalate_append (sep : Text) {front back : List Text} (someFront : front ≠ [])
    (someBack : back ≠ []) :
    sep.intercalate (front ++ back) = sep.intercalate front ++ sep ++ sep.intercalate back := by
  obtain ⟨a, front, rfl⟩ := List.exists_cons_of_ne_nil someFront
  obtain ⟨b, back, rfl⟩ := List.exists_cons_of_ne_nil someBack
  rw [List.cons_append, Text.intercalate_cons, Text.intercalate_cons, Text.intercalate_cons]
  simp

namespace Descriptor

/-! ### Levels -/

/-- The text shows the level with its arguments. -/
def ShowsLevel (escaping : Bool) (level : Level Descriptor) (text : Text) : Prop :=
  ∃ texts, List.Forall₂ (fun a text ↦ a.displayName escaping = .ok text) level.arguments texts ∧
    text = levelText escaping level.name texts

variable {escaping : Bool}

theorem forall₂_of_argumentNames {arguments : List Descriptor} {texts : List Text}
    (h : argumentNames escaping arguments = .ok texts) :
    List.Forall₂ (fun a text ↦ a.displayName escaping = .ok text) arguments texts := by
  induction arguments generalizing texts with
  | nil =>
    obtain rfl := Except.ok.inj h
    exact .nil
  | cons a arguments ih =>
    rw [argumentNames, except_bind_eq_ok_iff] at h
    obtain ⟨text, isText, h⟩ := h
    obtain ⟨others, areOthers, rfl⟩ := except_map_eq_ok_iff.1 h
    exact .cons isText (ih areOthers)

theorem forall₂_of_levelNames {levels : List (Level Descriptor)} {texts : List Text}
    (h : levelNames escaping levels = .ok texts) :
    List.Forall₂ (ShowsLevel escaping) levels texts := by
  induction levels generalizing texts with
  | nil =>
    obtain rfl := Except.ok.inj h
    exact .nil
  | cons level levels ih =>
    rw [levelNames, except_bind_eq_ok_iff] at h
    obtain ⟨own, areOwn, h⟩ := h
    obtain ⟨others, areOthers, rfl⟩ := except_map_eq_ok_iff.1 h
    exact .cons ⟨own, forall₂_of_argumentNames areOwn, rfl⟩ (ih areOthers)

/-! ### Named types -/

/-- The text of a namespace with the dot after it; an empty one has no dot. -/
def inFront (dotted shown : Text) : Text :=
  if dotted = [] then [] else shown ++ "."

theorem namedText_segmentsOf (dotted : Text) {texts : List Text} (nonempty : texts ≠ []) :
    namedText escaping (segmentsOf dotted) texts =
      inFront dotted
        (("." : Text).intercalate ((dotted.splitOn dot).map (Identifier.display escaping))) ++
          ("." : Text).intercalate texts := by
  by_cases isEmpty : dotted = []
  · simp [namedText, segmentsOf, inFront, isEmpty]
  · have somePieces : (dotted.splitOn dot).map (Identifier.display escaping) ≠ [] := by simp
    have split : segmentsOf dotted = dotted.splitOn dot := by simp [segmentsOf, isEmpty, dot]
    rw [namedText, split, intercalate_append _ somePieces nonempty, inFront, if_neg isEmpty]

theorem buildNamed_of_levels (dotted : Text) {levels : List (Level Descriptor)}
    (nonempty : levels ≠ []) :
    buildNamed dotted levels = .ok (named (segmentsOf dotted) levels none none) := by
  cases levels with
  | nil => exact absurd rfl nonempty
  | cons level levels => rfl

theorem displayName_of_dotted (dotted : Text) {levels : List (Level Descriptor)}
    (nonempty : levels ≠ []) {texts : List Text}
    (areNamed : levelNames escaping levels = .ok texts) :
    (named (segmentsOf dotted) levels none none).displayName escaping =
      .ok (inFront dotted
          (("." : Text).intercalate ((dotted.splitOn dot).map (Identifier.display escaping))) ++
        ("." : Text).intercalate texts) := by
  have someTexts : texts ≠ [] := by
    rintro rfl
    have shown := forall₂_of_levelNames areNamed
    cases shown
    exact nonempty rfl
  have ordinary : isNullableWrapper (named (segmentsOf dotted) levels none none) = false := rfl
  rw [displayName_named escaping ordinary, areNamed, Except.map,
    namedText_segmentsOf dotted someTexts]

/-- A namespace is cut at its dots and at nothing else, and shown as it was given, up to the marks
of its pieces when `escaping` is on. -/
theorem displayName_buildNamed (dotted : Text) (levels : List (Level Descriptor))
    (nonempty : levels ≠ []) :
    ∃ d pieces, buildNamed dotted levels = .ok d ∧
      ArePieces dotted pieces ∧ (∀ others, ArePieces dotted others → others = pieces) ∧
      d = named (if dotted = [] then [] else pieces) levels none none ∧
      (∀ escaping, (∀ level ∈ levels, ∀ a ∈ level.arguments, HasName escaping a) →
        ∃ texts, List.Forall₂ (ShowsLevel escaping) levels texts ∧
          d.displayName escaping =
            .ok (inFront dotted
                (("." : Text).intercalate (pieces.map (Identifier.display escaping))) ++
              ("." : Text).intercalate texts)) ∧
      ((∀ level ∈ levels, ∀ a ∈ level.arguments, HasName false a) →
        ∃ texts, List.Forall₂ (ShowsLevel false) levels texts ∧
          d.displayName false =
            .ok (inFront dotted dotted ++ ("." : Text).intercalate texts)) := by
  have shown : ∀ escaping, (∀ level ∈ levels, ∀ a ∈ level.arguments, HasName escaping a) →
      ∃ texts, List.Forall₂ (ShowsLevel escaping) levels texts ∧
        (named (segmentsOf dotted) levels none none).displayName escaping =
          .ok (inFront dotted
              (("." : Text).intercalate ((dotted.splitOn dot).map (Identifier.display escaping))) ++
            ("." : Text).intercalate texts) := by
    intro escaping each
    have areNamed : ∀ a ∈ argumentsOf levels, HasName escaping a := by
      intro a isArgument
      obtain ⟨level, isLevel, inLevel⟩ := mem_argumentsOf.1 isArgument
      exact each level isLevel a inLevel
    obtain ⟨texts, areTexts⟩ := levelNames_ok_iff.2 areNamed
    exact ⟨texts, forall₂_of_levelNames areTexts, displayName_of_dotted dotted nonempty areTexts⟩
  refine ⟨_, dotted.splitOn dot, buildNamed_of_levels dotted nonempty, arePieces_splitOn dotted,
    fun others cut ↦ cut.eq_splitOn, ?_, shown, fun each ↦ ?_⟩
  · by_cases isEmpty : dotted = [] <;> simp [segmentsOf, isEmpty, dot]
  · obtain ⟨texts, areTexts, isName⟩ := shown false each
    refine ⟨texts, areTexts, isName.trans ?_⟩
    have unmarked : (dotted.splitOn dot).map (Identifier.display false) = dotted.splitOn dot :=
      (List.map_congr_left fun piece _ ↦ Identifier.display_false piece).trans (List.map_id _)
    rw [unmarked, (arePieces_splitOn dotted).joined]

/-- The first, a middle and the last piece are empty, and another one is a keyword. -/
theorem displayName_sparseNamespace :
    let levels : List (Level Descriptor) := [⟨"class", [primitive .int]⟩, ⟨"D", []⟩]
    ∃ d, buildNamed ".new..N." levels = .ok d ∧
      d = named ["", "new", "", "N", ""] levels none none ∧
      (∃ texts, List.Forall₂ (ShowsLevel true) levels texts ∧
        d.displayName true = .ok (".@new..N.." ++ ("." : Text).intercalate texts)) ∧
      (∃ texts, List.Forall₂ (ShowsLevel false) levels texts ∧
        d.displayName false = .ok (".new..N.." ++ ("." : Text).intercalate texts)) ∧
      d.displayName true = .ok ".@new..N..@class<int>.D" := by
  intro levels
  have each : ∀ escaping, ∀ level ∈ levels, ∀ a ∈ level.arguments, HasName escaping a := by
    intro escaping
    have int : HasName escaping (primitive .int) := ⟨"int", rfl⟩
    simpa [levels] using int
  obtain ⟨d, pieces, isBuilt, -, unique, isNamed, shown, plain⟩ :=
    displayName_buildNamed ".new..N." levels (List.cons_ne_nil _ _)
  have cut : ArePieces ".new..N." ["", "new", "", "N", ""] :=
    ⟨by decide, by decide, List.cons_ne_nil _ _⟩
  obtain rfl := unique _ cut
  exact ⟨d, isBuilt, isNamed, shown true (each true), plain (each false), isNamed ▸ rfl⟩

end Descriptor
end TypeDisplay
