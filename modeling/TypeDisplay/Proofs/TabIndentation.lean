import Mathlib.Data.List.Permutation
import TypeDisplay.Json
import TypeDisplay.Proofs.Acceptance
import TypeDisplay.Source

/-!
# Objects that are indented with tabs

Between tokens only spaces and breaks are passed over, so no token can be cut where a tab is in
front.  JSON has tabs between its tokens.  An object whose first member is indented with a tab is
refused, whatever follows.

The brace may still turn out to begin a key, so it has not been handed out when the tab is met.
-/

namespace TypeDisplay
namespace Yaml

/-- Characters that stand for nothing between the tokens of a flow collection. -/
def IsGap (c : Char) : Prop := c = ' ' ∨ c = '\n' ∨ c = '\r'

/-- Where the characters that stand for nothing end. -/
def EndsGap (c : Char) : Prop := c ≠ ' ' ∧ c ≠ '#' ∧ isBreak c = false

namespace Cursor

variable {c : Cursor} {first : Char} {rest : List Char}

theorem skipSpaces_of_ne (here : c.rest = first :: rest) (isOther : first ≠ ' ') :
    c.skipSpaces = c := by
  have noRun : c.rest.takeWhile (· == ' ') = [] := by simp [here, isOther]
  simp [skipSpaces, skipWhile, span, noRun, skip]

theorem skipComment_of_ne (here : c.rest = first :: rest) (isOther : first ≠ '#') :
    c.skipComment = c := by
  rw [skipComment, here]
  split
  · rename_i same
    exact absurd (List.cons.inj same).1 isOther
  · rfl

theorem skipSpaces_space (here : c.rest = ' ' :: rest) :
    c.skipSpaces = (c.skip [' ']).skipSpaces := by
  have isMark : (' ' != byteOrderMark) = true := by decide
  simp only [skipSpaces, skipWhile, span, skip, here, List.takeWhile_cons, beq_self_eq_true,
    if_true, List.length_cons, List.length_nil, List.drop_succ_cons, List.drop_zero,
    List.countP_cons, List.countP_nil, isMark, Cursor.mk.injEq, true_and]
  omega

theorem lineBreak?_eq_none (here : c.rest = first :: rest) (noBreak : isBreak first = false) :
    c.lineBreak? = none := by
  have noSeparator : isLineSeparator first = false := by
    simp only [isBreak, Bool.or_eq_false_iff] at noBreak
    exact noBreak.2
  rw [lineBreak?, here]
  split
  · rename_i same
    obtain rfl := (List.cons.inj same).1
    cases noBreak
  · rename_i same
    obtain ⟨rfl, -⟩ := List.cons.inj same
    simp [noSeparator, noBreak]
  · rename_i same
    cases same

/-- A break is one character, or a carriage return and a line feed. -/
theorem lineBreak?_of_isGap {stop : Char} (ends : EndsGap stop) {gap : List Char}
    (isOther : first = '\n' ∨ first = '\r') (here : c.rest = first :: (gap ++ stop :: rest)) :
    ∃ passed more, gap = passed ++ more ∧
      c.lineBreak? = some ('\n', c.newLine (more ++ stop :: rest) (1 + passed.length)) := by
  rcases isOther with rfl | rfl
  · refine ⟨[], gap, rfl, ?_⟩
    rw [lineBreak?, here]
    rfl
  · match gap with
    | '\n' :: more =>
      refine ⟨['\n'], more, rfl, ?_⟩
      rw [lineBreak?, here]
      rfl
    | [] =>
      have noFeed : stop ≠ '\n' := by
        rintro rfl
        exact absurd ends.2.2 (by decide)
      refine ⟨[], [], rfl, ?_⟩
      rw [lineBreak?, here]
      simp [noFeed, isLineSeparator, isBreak]
    | d :: more =>
      by_cases isFeed : d = '\n'
      · subst isFeed
        refine ⟨['\n'], more, rfl, ?_⟩
        rw [lineBreak?, here]
        rfl
      · refine ⟨[], d :: more, rfl, ?_⟩
        rw [lineBreak?, here]
        simp [isFeed, isLineSeparator, isBreak]

end Cursor

namespace Lexer

variable {stop : Char} {rest : List Char}

theorem skipBlanksFrom_end {s : Lexer} (ends : EndsGap stop) (here : s.cursor.rest = stop :: rest)
    (fuel : Nat) : skipBlanksFrom (fuel + 1) s = s := by
  obtain ⟨noSpace, noComment, noBreak⟩ := ends
  rw [skipBlanksFrom, Cursor.skipSpaces_of_ne here noSpace, Cursor.skipComment_of_ne here noComment]
  simp [Cursor.lineBreak?_eq_none here noBreak]

theorem skipBlanksFrom_space {s : Lexer} (here : s.cursor.rest = ' ' :: rest) (fuel : Nat) :
    skipBlanksFrom (fuel + 1) s =
      skipBlanksFrom (fuel + 1) { s with cursor := s.cursor.skip [' '] } := by
  rw [skipBlanksFrom, Cursor.skipSpaces_space here]
  rfl

theorem skipBlanksFrom_break {s : Lexer} {first c : Char} {cursor : Cursor}
    (here : s.cursor.rest = first :: rest) (isOther : first = '\n' ∨ first = '\r')
    (isLine : s.cursor.lineBreak? = some (c, cursor)) (fuel : Nat) :
    skipBlanksFrom (fuel + 1) s =
      skipBlanksFrom fuel { s with cursor := cursor, keyAllowed := s.keyAllowed || s.inBlock } := by
  have noSpace : first ≠ ' ' := by
    rcases isOther with rfl | rfl <;> decide
  have noComment : first ≠ '#' := by
    rcases isOther with rfl | rfl <;> decide
  rw [skipBlanksFrom, Cursor.skipSpaces_of_ne here noSpace, Cursor.skipComment_of_ne here noComment]
  simp [isLine]

/-- The characters that stand for nothing are passed over, and the fuel is enough when it exceeds
their number. -/
theorem skipBlanksFrom_gap (ends : EndsGap stop) {fuel : Nat} {s : Lexer} {gap : List Char}
    (isGap : ∀ c ∈ gap, IsGap c) (here : s.cursor.rest = gap ++ stop :: rest)
    (enough : gap.length < fuel) :
    ∃ cursor allowed, skipBlanksFrom fuel s = { s with cursor := cursor, keyAllowed := allowed } ∧
      cursor.rest = stop :: rest ∧ cursor.size = s.cursor.size ∧
      cursor.index = s.cursor.index + gap.length ∧ (s.keyAllowed = true → allowed = true) := by
  -- A carriage return and a line feed are passed over at once, so the induction is on the length.
  induction length : gap.length using Nat.strongRecOn generalizing fuel s gap with
  | _ n ih =>
    obtain ⟨fuel, rfl⟩ : ∃ n, fuel = n + 1 := ⟨fuel - 1, by omega⟩
    cases gap with
    | nil =>
      subst length
      exact ⟨s.cursor, s.keyAllowed, skipBlanksFrom_end ends here fuel, here, rfl, rfl, id⟩
    | cons c gap =>
      have others : ∀ c ∈ gap, IsGap c := fun c member ↦ isGap c (List.mem_cons_of_mem _ member)
      rw [List.length_cons] at enough length
      rcases isGap c (List.mem_cons_self ..) with rfl | isOther
      · have passed : (s.cursor.skip [' ']).rest = gap ++ stop :: rest := by
          simp [Cursor.skip, here]
        obtain ⟨cursor, allowed, same, atStop, size, index, isAllowed⟩ :=
          @ih gap.length (by omega) (fuel + 1) { s with cursor := s.cursor.skip [' '] } gap others
            passed (by omega) rfl
        refine ⟨cursor, allowed, ?_, atStop, size, ?_, isAllowed⟩
        · rw [skipBlanksFrom_space here, same]
        · rw [index]
          simp only [Cursor.skip, List.length_cons, List.length_nil]
          omega
      · obtain ⟨passed, more, rfl, isLine⟩ := Cursor.lineBreak?_of_isGap ends isOther here
        have othersMore : ∀ c ∈ more, IsGap c :=
          fun c member ↦ others c (List.mem_append_right _ member)
        rw [List.length_append] at enough length
        obtain ⟨cursor, allowed, same, atStop, size, index, isAllowed⟩ :=
          @ih more.length (by omega) fuel
            { s with
              cursor := s.cursor.newLine (more ++ stop :: rest) (1 + passed.length)
              keyAllowed := s.keyAllowed || s.inBlock } more othersMore rfl (by omega) rfl
        refine ⟨cursor, allowed, ?_, atStop, size, ?_, fun h ↦ isAllowed (by simp [h])⟩
        · rw [skipBlanksFrom_break here isOther isLine, same]
        · rw [index]
          simp only [Cursor.newLine]
          omega

theorem skipBlanks_gap (ends : EndsGap stop) (noMark : stop ≠ byteOrderMark) {s : Lexer}
    {gap : List Char} (isGap : ∀ c ∈ gap, IsGap c) (here : s.cursor.rest = gap ++ stop :: rest)
    (enough : gap.length ≤ s.cursor.size - s.cursor.index) :
    ∃ cursor allowed, s.skipBlanks = { s with cursor := cursor, keyAllowed := allowed } ∧
      cursor.rest = stop :: rest ∧ cursor.size = s.cursor.size ∧
      cursor.index = s.cursor.index + gap.length ∧ (s.keyAllowed = true → allowed = true) := by
  have noMarkHere : s.cursor.rest.head? ≠ some byteOrderMark := by
    rw [here]
    cases gap with
    | nil => simpa using noMark
    | cons c gap =>
      have isOther : c ≠ byteOrderMark := by
        rcases isGap c (List.mem_cons_self ..) with rfl | rfl | rfl <;> decide
      simpa using isOther
  have atMark : ¬ (s.cursor.index = 0 ∧ s.cursor.rest.head? = some byteOrderMark) :=
    fun h ↦ noMarkHere h.2
  rw [skipBlanks]
  simp only [atMark, if_false]
  exact skipBlanksFrom_gap ends isGap here (by rw [Cursor.fuel]; omega)

/-! ### Steps -/

/-- No token begins with a tab. -/
theorem token_of_tab {s : Lexer} (here : s.cursor.rest = '\t' :: rest) :
    s.token = .error (.malformed .token) := by
  have notSeparator : s.cursor.atSeparator = false := by simp [Cursor.atSeparator, here]
  have notPlain : s.startsPlain '\t' rest = false := by simp [startsPlain, isSpace]
  rw [token, here]
  simp [notSeparator, notPlain]

theorem token_of_brace {s : Lexer} (here : s.cursor.rest = '\x7b' :: rest) :
    s.token = s.flowStart .flowMappingStart := by
  have notSeparator : s.cursor.atSeparator = false := by simp [Cursor.atSeparator, here]
  rw [token, here]
  simp [notSeparator]

theorem cursor_unwind (s : Lexer) (column : Int) : (s.unwind column).cursor = s.cursor := by
  unfold unwind
  split <;> rfl

/-- Wherever a tab stands in front of a token, the text cannot be cut any further. -/
theorem step_of_tab {s : Lexer} (here : s.skipBlanks.cursor.rest = '\t' :: rest) :
    ∃ cause, s.step = .error (.malformed cause) := by
  rw [step]
  cases kept : s.skipBlanks.dropStaleKeys with
  | error failure =>
    rw [dropStaleKeys] at kept
    split at kept
    · obtain rfl := Except.error.inj kept
      exact ⟨.key, rfl⟩
    · cases kept
  | ok t =>
    have sameCursor : t.cursor = s.skipBlanks.cursor := by
      rw [dropStaleKeys] at kept
      split at kept
      · cases kept
      · obtain rfl := Except.ok.inj kept
        rfl
    have atTab : (t.unwind t.cursor.column).cursor.rest = '\t' :: rest := by
      rw [cursor_unwind, sameCursor, here]
    refine ⟨.token, ?_⟩
    simp only [bind, Except.bind, token_of_tab atTab]
    simp [atTab]

/-- The first step over an object ends behind its brace, in front of which a key may stand. -/
theorem step_of_brace {lead : List Char} (isGap : ∀ c ∈ lead, IsGap c) :
    ∃ cursor key, (start (lead ++ '\x7b' :: rest)).step =
        .ok ⟨cursor, [.flowMappingStart], 1, 1, [], true, [(0, key)]⟩ ∧
      cursor.rest = rest ∧ rest.length = cursor.size - cursor.index ∧
      key.position = 0 ∧ key.line = cursor.line ∧ cursor.index = key.index + 1 := by
  have ends : EndsGap '\x7b' := by
    refine ⟨?_, ?_, ?_⟩ <;> decide
  obtain ⟨cursor, allowed, passed, atBrace, size, index, isAllowed⟩ :=
    @skipBlanks_gap '\x7b' rest ends (by decide) (start (lead ++ '\x7b' :: rest)) lead isGap rfl
      (by simp [start, Cursor.start])
  obtain rfl : allowed = true := isAllowed rfl
  refine ⟨cursor.drop 1, ⟨0, false, cursor.index, cursor.line, cursor.column⟩, ?_, ?_, ?_, rfl,
    rfl, ?_⟩
  · have noKeys : dropStaleKeys ⟨cursor, [], 0, 0, [], true, []⟩ =
        .ok ⟨cursor, [], 0, 0, [], true, []⟩ := rfl
    have noBlocks : unwind ⟨cursor, [], 0, 0, [], true, []⟩ cursor.column =
        ⟨cursor, [], 0, 0, [], true, []⟩ := rfl
    have isBrace := @token_of_brace rest ⟨cursor, [], 0, 0, [], true, []⟩ atBrace
    have notRequired : ((-1 : Int) == (cursor.column : Int)) = false := by
      simp only [beq_eq_false_iff_ne, ne_eq]
      omega
    rw [step, passed]
    simp only [start, bind, Except.bind, noKeys, noBlocks, isBrace, atBrace]
    simp [flowStart, saveKey, dropKey, currentKey?, inBlock, indent, allowKey, take, push,
      notRequired, bind, Except.bind, pure, Except.pure]
  · simp [Cursor.drop, Cursor.skip, atBrace]
  · simp [Cursor.drop, Cursor.skip, atBrace, size, index, start, Cursor.start]
    omega
  · simp [Cursor.drop, Cursor.skip, atBrace]

theorem run_of_tab {lead gap : List Char} (isLead : ∀ c ∈ lead, IsGap c)
    (isGap : ∀ c ∈ gap, IsGap c) (fuel : Nat) :
    ∃ cause, run (fuel + 2) (start (lead ++ '\x7b' :: (gap ++ '\t' :: rest))) 0 =
      [.fault (.malformed cause)] := by
  obtain ⟨cursor, key, isStep, behind, size, position, line, index⟩ :=
    @step_of_brace (gap ++ '\t' :: rest) lead isLead
  have ends : EndsGap '\t' := by
    refine ⟨?_, ?_, ?_⟩ <;> decide
  have enough : gap.length ≤ cursor.size - cursor.index := by
    rw [← size, List.length_append]
    omega
  obtain ⟨inside, allowed, passed, atTab, -⟩ := @skipBlanks_gap '\t' rest ends (by decide)
    ⟨cursor, [.flowMappingStart], 1, 1, [], true, [(0, key)]⟩ gap isGap behind enough
  have tabAhead : (skipBlanks ⟨cursor, [.flowMappingStart], 1, 1, [], true,
      [(0, key)]⟩).cursor.rest = '\t' :: rest := by
    rw [passed]
    exact atTab
  obtain ⟨cause, isFault⟩ := step_of_tab tabAhead
  -- The key that may stand in front of the brace is still within reach, so the brace is kept back.
  have fresh : isStale ⟨cursor, [.flowMappingStart], 1, 1, [], true, [(0, key)]⟩ key = false := by
    simp [isStale, line, index]
  refine ⟨cause, ?_⟩
  rw [run, isStep]
  simp [isFinished, dropStaleKeys, fresh, ready, position, run, isFault, upTo]

end Lexer

theorem admitted?_ofChars {cs admitted : List Char}
    (h : admitted? (Text.ofChars cs) = some admitted) : admitted = cs := by
  induction cs generalizing admitted with
  | nil =>
    simp only [admitted?, Text.ofChars, List.map_nil, List.mapM_nil] at h
    exact (Option.some.inj h).symm
  | cons c cs ih =>
    obtain ⟨first, isFirst, rest, isRest, rfl⟩ :
        ∃ first, (some c).filter isAdmissible = some first ∧
          ∃ rest, admitted? (Text.ofChars cs) = some rest ∧ first :: rest = admitted := by
      simpa [admitted?, Text.ofChars, CodePoint.char?, Option.bind_eq_some_iff] using h
    obtain rfl := ih isRest
    obtain ⟨rfl, -⟩ : c = first ∧ _ := by simpa using isFirst
    rfl

/-- Where nothing is handed out before a fault, there is no document. -/
theorem graph_of_fault (cause : Malformed) :
    Graph.ofTokens [.fault (.malformed cause)] = .error (.malformed cause) := by
  have first : Composition.peek ⟨[.fault (.malformed cause)], #[], []⟩ =
      .error (.malformed cause) := rfl
  rw [Graph.ofTokens, Composition.readDocument]
  simp only [StateT.run, bind, StateT.bind, first, Except.bind]

end Yaml

namespace Source

open Yaml

/-- An object whose first member is indented with a tab is malformed, whatever comes after. -/
theorem parse_tabbed {lead gap : List Char} (isLead : ∀ c ∈ lead, IsGap c)
    (isGap : ∀ c ∈ gap, IsGap c) (rest : List Char) (label : Text) :
    parse (Text.ofChars (lead ++ '\x7b' :: (gap ++ '\t' :: rest))) label =
      .error (.malformed label) := by
  obtain ⟨cause, areTokens⟩ :
      ∃ cause, tokens (Text.ofChars (lead ++ '\x7b' :: (gap ++ '\t' :: rest))) =
        [.fault (.malformed cause)] := by
    rw [tokens]
    cases isText : admitted? (Text.ofChars (lead ++ '\x7b' :: (gap ++ '\t' :: rest))) with
    | none => exact ⟨.character, rfl⟩
    | some admitted =>
      obtain rfl := admitted?_ofChars isText
      have fuel : (lead ++ '\x7b' :: (gap ++ '\t' :: rest)).length + 1 =
          (lead.length + (gap.length + rest.length) + 1) + 2 := by
        simp only [List.length_append, List.length_cons]
        omega
      simp only [fuel]
      exact Lexer.run_of_tab isLead isGap _
  have isMalformed : read (Text.ofChars (lead ++ '\x7b' :: (gap ++ '\t' :: rest))) =
      .error (.malformed cause) := by
    rw [Yaml.read, areTokens, graph_of_fault]
    rfl
  rw [parse, isMalformed]

/-- A JSON text whose value is valid. -/
def tabbedVoid : String := "\x7b\n\t\"kind\": \"void\"\n\x7d"

theorem parse_tabbedVoid :
    ∃ v, Json.read? tabbedVoid = some v ∧ Descriptor.validate v = .ok .void ∧
      parse tabbedVoid = .error (.malformed unnamed) := by
  have isJson : Document.IsJson Descriptor.void.toDocument := Descriptor.isJson_nestedPointers 0
  have describes : Descriptor.Describes Descriptor.void.toDocument .void :=
    Descriptor.describes_nestedPointers 0
  refine ⟨Descriptor.void.toDocument, ?_, ?_, ?_⟩
  · rw [Descriptor.toDocument]
    cbv
  · exact (Descriptor.validate_eq_ok_iff isJson _).2 ⟨describes, rfl⟩
  · have noLead : ∀ c ∈ ([] : List Char), IsGap c := by simp
    have isGap : ∀ c ∈ ['\n'], IsGap c := by simp [IsGap]
    exact parse_tabbed noLead isGap "\"kind\": \"void\"\n\x7d".toList unnamed

end Source
end TypeDisplay
