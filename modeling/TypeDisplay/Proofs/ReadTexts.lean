import Mathlib.Data.List.InsertIdx
import TypeDisplay.Proofs.Ensures
import TypeDisplay.Yaml.Merge

/-!
# Texts that are read

A code point is a character or a surrogate, and the two have different numbers.  What is cut into
tokens are characters, so a surrogate comes into a text only by an escape, which gives it its number.
So the texts of all scalars among the tokens, and among the nodes that are made of them, consist of
code points.
-/

namespace TypeDisplay

namespace CodePoint

/-- What is held as a surrogate is one. -/
def IsProper : CodePoint → Prop
  | char _ => True
  | surrogate unit => isHigh unit ∨ isLow unit

theorem isProper_ofNumber (n : Nat) : (ofNumber n).IsProper := by
  rw [ofNumber]
  split
  case isTrue h => simpa [IsProper] using h
  case isFalse => exact trivial

theorem toNat_ne_of_isProper {c : Char} {unit : Nat} (proper : (surrogate unit).IsProper) :
    c.toNat ≠ unit := by
  have bounds : 0xD800 ≤ unit ∧ unit < 0xE000 := by
    simp only [IsProper, isHigh, isLow, Bool.and_eq_true, decide_eq_true_eq] at proper
    omega
  have valid : c.toNat < 0xD800 ∨ 0xDFFF < c.toNat ∧ c.toNat < 0x110000 := c.valid
  omega

theorem number_inj {p q : CodePoint} (isProper : p.IsProper) (isProper' : q.IsProper)
    (same : p.number = q.number) : p = q := by
  cases p with
  | char c =>
    cases q with
    | char d => rw [Char.toNat_inj.1 same]
    | surrogate unit => exact absurd same (toNat_ne_of_isProper isProper')
  | surrogate unit =>
    cases q with
    | char d => exact absurd same.symm (toNat_ne_of_isProper isProper)
    | surrogate unit' => exact congrArg surrogate same

end CodePoint

namespace Text

def IsProper (text : Text) : Prop := ∀ p ∈ text, p.IsProper

theorem isProper_ofChars (cs : List Char) : (ofChars cs).IsProper := by
  intro p member
  obtain ⟨c, -, rfl⟩ := List.mem_map.1 member
  exact trivial

theorem isProper_nil : IsProper [] := isProper_ofChars []

theorem IsProper.append {s t : Text} (h : s.IsProper) (h' : t.IsProper) : IsProper (s ++ t) :=
  List.forall_mem_append.2 ⟨h, h'⟩

theorem IsProper.reverse {s : Text} (h : s.IsProper) : IsProper s.reverse :=
  fun p member ↦ h p (List.mem_reverse.1 member)

end Text

namespace Yaml

/-! ### Tokens -/

theorem escape_yields (c : Cursor) : Yields (escape c) fun read ↦ read.1.IsProper := by
  rw [escape]
  split
  case h_1 => exact .error _
  case h_2 ch rest here =>
    split
    case h_1 _ _ named _ => exact .ok (Text.isProper_ofChars [named])
    case h_2 width _ _ =>
      split
      case h_1 => exact .error _
      case h_2 code _ =>
        split
        · exact .error _
        · exact .ok (List.forall_mem_singleton.2 (CodePoint.isProper_ofNumber code))
    case h_3 =>
      split
      case h_1 _ c _ =>
        exact .map ((Yields.trivial _).mono fun read _ ↦ Text.isProper_ofChars read.1)
      case h_2 => exact .error _

theorem doubleFrom_yields (fuel : Nat) (c : Cursor) {done : Text} (proper : done.IsProper) :
    Yields (doubleFrom fuel c done) fun read ↦ read.1.IsProper := by
  induction fuel generalizing c done with
  | zero => exact .error _
  | succ fuel ih =>
    rw [doubleFrom]
    split
    case h_1 => exact .ok proper.reverse
    case h_2 =>
      exact (escape_yields _).bind fun read isEscape ↦ ih read.2 (isEscape.reverse.append proper)
    case h_3 => exact .error _
    case h_4 =>
      split
      · exact (Yields.trivial _).bind fun read _ ↦
          ih read.2 ((Text.isProper_ofChars _).append proper)
      · exact ih _ ((Text.isProper_ofChars _).append proper)

/-- The text of a scalar token consists of code points. -/
def Token.IsProper : Token → Prop
  | .scalar text _ => text.IsProper
  | _ => True

namespace Lexer

/-- What succeeds reads a token with the property. -/
def ReadsProper (read : Except Failure (Token × Cursor)) : Prop :=
  Yields read fun done ↦ done.1.IsProper

theorem readsProper_tag (c : Cursor) : ReadsProper (tag c) := by
  have ending (handle : Option (List Char)) (suffix : List Char) (c : Cursor) :
      ReadsProper (if endsSpaced c.rest then
        pure (.tag (handle.map String.ofList) (String.ofList suffix), c)
      else throw (.malformed .token)) := by
    split
    · exact .ok trivial
    · exact .error _
  rw [tag]
  split
  · refine (Yields.trivial _).bind fun ⟨suffix, c⟩ _ ↦ ?_
    dsimp only
    split
    · exact ending _ _ _
    · exact .error _
  · split
    · exact ending _ _ _
    split
    · refine (Yields.trivial _).bind fun handle _ ↦ ?_
      exact (Yields.trivial _).bind fun suffix _ ↦ ending _ _ _
    · exact (Yields.trivial _).bind fun suffix _ ↦ ending _ _ _
  · exact .error _

theorem readsProper_versionDirective (c : Cursor) : ReadsProper (versionDirective c) := by
  refine (Yields.trivial _).bind fun ⟨major, c⟩ _ ↦ ?_
  dsimp only
  split
  · refine (Yields.trivial _).bind fun minor _ ↦ ?_
    split
    · exact .ok trivial
    · exact .error _
  · exact .error _

theorem readsProper_tagDirective (c : Cursor) : ReadsProper (tagDirective c) := by
  refine (Yields.trivial _).bind fun ⟨handle, c⟩ _ ↦ ?_
  dsimp only
  split
  · refine (Yields.trivial _).bind fun start _ ↦ ?_
    split
    · exact .ok trivial
    · exact .error _
  · exact .error _

theorem readsProper_directive (c : Cursor) : ReadsProper (directive c) := by
  have endOfLine (read : Token × Cursor) (proper : read.1.IsProper) :
      ReadsProper (do let after ← read.2.skipIgnoredLine; pure (read.1, after)) :=
    (Yields.trivial _).bind fun after _ ↦ .ok proper
  refine (Yields.trivial _).bind fun ⟨name, c⟩ _ ↦ ?_
  dsimp only
  split
  · exact .error _
  split
  · exact (readsProper_versionDirective c).bind endOfLine
  split
  · exact (readsProper_tagDirective c).bind endOfLine
  · exact endOfLine (.otherDirective, _) trivial

theorem readsProper_apostropheScalar (c : Cursor) : ReadsProper (apostropheScalar c) :=
  .map ((Yields.trivial _).mono fun read _ ↦ Text.isProper_ofChars read.1)

theorem readsProper_doubleScalar (c : Cursor) : ReadsProper (doubleScalar c) :=
  .map (doubleFrom_yields _ _ Text.isProper_nil)

/-- The tokens so far have the property. -/
def IsProper (s : Lexer) : Prop := ∀ token ∈ s.tokens, token.IsProper

namespace IsProper

variable {s : Lexer} {t : Token}

theorem atCursor (h : s.IsProper) (c : Cursor) : IsProper { s with cursor := c } := h

theorem allowKey (h : s.IsProper) (allowed : Bool) : (s.allowKey allowed).IsProper := h

theorem push (h : s.IsProper) (isProper : t.IsProper) : (s.push t).IsProper :=
  List.forall_mem_cons.2 ⟨isProper, h⟩

theorem take (h : s.IsProper) (length : Nat) (isProper : t.IsProper) :
    (s.take length t).IsProper :=
  h.push isProper

theorem insertAt (h : s.IsProper) (position : Nat) (isProper : t.IsProper) :
    (s.insertAt position t).IsProper := by
  intro u member
  rcases List.eq_or_mem_of_mem_insertIdx member with rfl | member
  · exact isProper
  · exact h u member

theorem unwind (h : s.IsProper) (column : Int) : (s.unwind column).IsProper := by
  rw [Lexer.unwind]
  split
  · refine List.forall_mem_append.2 ⟨fun t member ↦ ?_, h⟩
    obtain rfl := List.eq_of_mem_replicate member
    exact trivial
  · exact h

theorem openAt? (h : s.IsProper) {column : Nat} {opened : Lexer}
    (isOpened : s.openAt? column = some opened) : opened.IsProper := by
  rw [Lexer.openAt?] at isOpened
  split at isOpened
  · obtain rfl := Option.some.inj isOpened
    exact h
  · cases isOpened

theorem openBlock (h : s.IsProper) (isProper : t.IsProper) : (s.openBlock t).IsProper := by
  rw [Lexer.openBlock]
  split
  case h_1 isOpened => exact (h.openAt? isOpened).push isProper
  case h_2 => exact h

theorem dropStaleKeys (h : s.IsProper) : Yields s.dropStaleKeys IsProper := by
  rw [Lexer.dropStaleKeys]
  split
  · exact .error _
  · exact .ok h

theorem dropKey (h : s.IsProper) : Yields s.dropKey IsProper := by
  rw [Lexer.dropKey]
  split
  · split
    · exact .error _
    · exact .ok h
  · exact .ok h

theorem saveKey (h : s.IsProper) : Yields s.saveKey IsProper := by
  rw [Lexer.saveKey]
  split
  · exact h.dropKey.bind fun _ kept ↦ .ok kept
  · exact .ok h

theorem skipBlanksFrom (h : s.IsProper) (fuel : Nat) : (skipBlanksFrom fuel s).IsProper := by
  induction fuel generalizing s with
  | zero => exact h
  | succ fuel ih =>
    rw [Lexer.skipBlanksFrom]
    split
    · exact ih h
    · exact h

theorem skipBlanks (h : s.IsProper) : s.skipBlanks.IsProper := by
  rw [Lexer.skipBlanks]
  exact skipBlanksFrom (h.atCursor _) _

/-! ### Steps -/

theorem closeAll (h : s.IsProper) : Yields s.closeAll IsProper :=
  (h.unwind (-1)).dropKey.bind fun _ kept ↦ .ok kept

theorem documentMark (h : s.IsProper) (isProper : t.IsProper) :
    Yields (s.documentMark t) IsProper :=
  h.closeAll.bind fun _ kept ↦ .ok (kept.take 3 isProper)

theorem flowStart (h : s.IsProper) (isProper : t.IsProper) : Yields (s.flowStart t) IsProper :=
  h.saveKey.bind fun _ kept ↦ .ok (IsProper.push kept isProper)

theorem flowEnd (h : s.IsProper) (isProper : t.IsProper) : Yields (s.flowEnd t) IsProper :=
  h.dropKey.bind fun _ kept ↦ .ok (IsProper.push kept isProper)

theorem flowEntry (h : s.IsProper) : Yields s.flowEntry IsProper :=
  h.dropKey.bind fun _ kept ↦ .ok (IsProper.push kept trivial)

theorem openInBlock (h : s.IsProper) (isProper : t.IsProper) :
    (if s.inBlock then s.openBlock t else s).IsProper := by
  split
  · exact h.openBlock isProper
  · exact h

theorem blockEntry (h : s.IsProper) : Yields s.blockEntry IsProper := by
  have isOpen := h.openInBlock (t := .sequenceStart) trivial
  refine .ite (.error _) ?_
  exact (dropKey isOpen).bind fun _ kept ↦ .ok (push kept trivial)

theorem complexKey (h : s.IsProper) : Yields s.complexKey IsProper := by
  have isOpen := h.openInBlock (t := .mappingStart) trivial
  refine .ite (.error _) ?_
  exact (dropKey isOpen).bind fun _ kept ↦ .ok (push kept trivial)

theorem colon (h : s.IsProper) : Yields s.colon IsProper := by
  rw [Lexer.colon]
  split
  case h_1 k isKey =>
    have isKept : s.forgetKey.IsProper := fun t member ↦ h t member
    have inserted := isKept.insertAt k.position (t := .key) trivial
    refine .ok (take (allowKey ?_ false) 1 trivial)
    split
    case h_1 opened isOpened =>
      split at isOpened
      · exact (inserted.openAt? isOpened).insertAt _ trivial
      · cases isOpened
    case h_2 => exact inserted
  case h_2 =>
    have isOpen := h.openInBlock (t := .mappingStart) trivial
    refine .ite (.error _) ?_
    refine (isOpen.allowKey _).dropKey.bind fun _ kept ↦ ?_
    exact .ok (push kept trivial)

theorem withKey (h : s.IsProper) {read : Cursor → Except Failure (Token × Cursor)}
    (reads : ∀ c, ReadsProper (read c)) : Yields (s.withKey read) IsProper :=
  h.saveKey.bind fun s kept ↦ (reads s.cursor).bind fun _ isProper ↦
    .ok (IsProper.push kept isProper)

theorem blockScalar (h : s.IsProper) (folded : Bool) : Yields (s.blockScalar folded) IsProper := by
  refine (h.allowKey true).dropKey.bind fun _ kept ↦ (Yields.trivial _).bind fun read _ ↦ ?_
  exact .ok (IsProper.push kept (Text.isProper_ofChars read.1))

theorem plainScalar (h : s.IsProper) : Yields s.plainScalar IsProper :=
  h.saveKey.bind fun _ kept ↦ .ok (IsProper.push kept (Text.isProper_ofChars _))

theorem token (h : s.IsProper) : Yields s.token IsProper := by
  rw [Lexer.token]
  split
  · exact .error _
  dsimp only
  split
  · refine h.closeAll.bind fun s kept ↦ (readsProper_directive _).bind fun read isProper ↦ ?_
    exact .ok (IsProper.push kept isProper)
  split
  · refine h.documentMark ?_
    split <;> exact trivial
  split
  · exact h.flowStart trivial
  · exact h.flowStart trivial
  · exact h.flowEnd trivial
  · exact h.flowEnd trivial
  · exact h.flowEntry
  · exact h.withKey fun c ↦ .map ((Yields.trivial _).mono fun _ _ ↦ trivial)
  · exact h.withKey fun c ↦ .map ((Yields.trivial _).mono fun _ _ ↦ trivial)
  · exact h.withKey readsProper_tag
  · exact h.withKey readsProper_apostropheScalar
  · exact h.withKey readsProper_doubleScalar
  split
  · exact h.blockEntry
  split
  · exact h.complexKey
  split
  · exact h.colon
  split
  · exact h.blockScalar false
  split
  · exact h.blockScalar true
  split
  · exact h.plainScalar
  · exact .error _

theorem finish (h : s.IsProper) : Yields s.finish IsProper :=
  h.closeAll.bind fun _ kept ↦ .ok (IsProper.push kept trivial)

theorem step (h : s.IsProper) : Yields s.step IsProper := by
  refine h.skipBlanks.dropStaleKeys.bind fun s kept ↦ ?_
  have unwound := kept.unwind s.cursor.column
  dsimp only
  split
  · exact unwound.finish
  · exact unwound.token

theorem upTo (h : s.IsProper) (handedOut : Nat) (failure : Failure) :
    ∀ t ∈ s.upTo handedOut failure, t.IsProper := by
  refine List.forall_mem_append.2 ⟨fun t member ↦ ?_, List.forall_mem_singleton.2 trivial⟩
  exact h t (List.mem_reverse.1 (List.mem_of_mem_take member))

theorem run (h : s.IsProper) (fuel handedOut : Nat) :
    ∀ t ∈ run fuel s handedOut, t.IsProper := by
  induction fuel generalizing s handedOut with
  | zero => exact h.upTo _ _
  | succ fuel ih =>
    rw [Lexer.run]
    split
    case h_1 => exact h.upTo _ _
    case h_2 s' isStep =>
      have kept := h.step s' isStep
      split
      · exact fun t member ↦ kept t (List.mem_reverse.1 member)
      split
      case h_1 => exact kept.upTo _ _
      case h_2 s'' isFresh => exact ih (kept.dropStaleKeys s'' isFresh) _

end IsProper
end Lexer

theorem isProper_of_mem_tokens {text : Text} {t : Token} (member : t ∈ tokens text) :
    t.IsProper := by
  rw [tokens] at member
  split at member
  case h_1 cs isText =>
    have begins : (Lexer.start cs).IsProper := by simp [Lexer.IsProper, Lexer.start]
    exact begins.run _ _ t member
  case h_2 =>
    obtain rfl := List.mem_singleton.1 member
    exact trivial

end Yaml
end TypeDisplay
