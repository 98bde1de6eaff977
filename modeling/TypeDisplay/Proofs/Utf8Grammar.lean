import TypeDisplay.Text.Utf8

/-!
# The grammar of UTF-8

A text in UTF-8 is a sequence of characters of one to four octets.  The first octet of a character
says how many follow.  The second one is restricted after four of the first octets, which keeps out
longer forms of a character, surrogates, and numbers above the last code point.

Decoding succeeds exactly on such sequences.  The decoder may stop inside a character, so the
induction is about the octets that may follow a character that was begun.
-/

namespace TypeDisplay
namespace Utf8

def IsTail (o : UInt8) : Prop := 0x80 ≤ o ∧ o ≤ 0xBF

/-- The octets of one character. -/
inductive IsCharacter : List UInt8 → Prop where
  | one {a : UInt8} (first : a < 0x80) : IsCharacter [a]
  | two {a b : UInt8} (first : 0xC2 ≤ a ∧ a ≤ 0xDF) (second : IsTail b) : IsCharacter [a, b]
  | three {a b c : UInt8} (first : 0xE0 ≤ a ∧ a ≤ 0xEF) (second : IsTail b)
      (notShorter : a = 0xE0 → 0xA0 ≤ b) (noSurrogate : a = 0xED → b ≤ 0x9F)
      (third : IsTail c) : IsCharacter [a, b, c]
  | four {a b c d : UInt8} (first : 0xF0 ≤ a ∧ a ≤ 0xF4) (second : IsTail b)
      (notShorter : a = 0xF0 → 0x90 ≤ b) (notAbove : a = 0xF4 → b ≤ 0x8F)
      (third : IsTail c) (fourth : IsTail d) : IsCharacter [a, b, c, d]

inductive IsUtf8 : List UInt8 → Prop where
  | nil : IsUtf8 []
  | cons {character rest : List UInt8} (isCharacter : IsCharacter character)
      (others : IsUtf8 rest) : IsUtf8 (character ++ rest)

/-- The octets that are owed, the first of which is in a range, and further characters. -/
def Continues : (owed : Nat) → (low high : UInt8) → List UInt8 → Prop
  | 0, _, _, octets => IsUtf8 octets
  | _ + 1, _, _, [] => False
  | owed + 1, low, high, o :: rest => (low ≤ o ∧ o ≤ high) ∧ Continues owed 0x80 0xBF rest

/-- What may follow, inside a character or between two. -/
def MayFollow : Option Begun → List UInt8 → Prop
  | none, octets => IsUtf8 octets
  | some b, octets => Continues b.owed b.low b.high octets

theorem continues_succ_iff {owed : Nat} {low high : UInt8} {octets : List UInt8} :
    Continues (owed + 1) low high octets ↔
      ∃ o rest, octets = o :: rest ∧ (low ≤ o ∧ o ≤ high) ∧ Continues owed 0x80 0xBF rest := by
  cases octets with
  | nil => simp [Continues]
  | cons o rest =>
    rw [Continues]
    constructor
    · exact fun h ↦ ⟨o, rest, rfl, h⟩
    · rintro ⟨_, _, ⟨⟩, h⟩
      exact h

theorem isUtf8_of_lt {o : UInt8} {rest : List UInt8} (ascii : o < 0x80) :
    IsUtf8 (o :: rest) ↔ IsUtf8 rest := by
  constructor
  · intro h
    generalize same : o :: rest = octets at h
    cases h with
    | nil => cases same
    | cons isCharacter others =>
      cases isCharacter <;>
        simp only [List.nil_append, List.cons_append, List.cons.injEq] at same <;> grind
  · exact IsUtf8.cons (.one ascii)

theorem not_isUtf8_of_begin?_eq_none {o : UInt8} {rest : List UInt8} {position : Nat}
    (notAscii : ¬ o < 0x80) (noBegin : begin? o position = none) : ¬ IsUtf8 (o :: rest) := by
  intro h
  generalize same : o :: rest = octets at h
  unfold begin? at noBegin
  cases h with
  | nil => cases same
  | cons isCharacter others =>
    cases isCharacter <;>
        simp only [List.nil_append, List.cons_append, List.cons.injEq] at same <;> grind

theorem owed_pos_of_begin? {o : UInt8} {position : Nat} {b : Begun}
    (begun : begin? o position = some b) : 0 < b.owed := by
  unfold begin? at begun
  grind

/-- The first octet of a character of several octets decides what may follow. -/
theorem isUtf8_of_begin?_eq_some {o : UInt8} {rest : List UInt8} {position : Nat} {b : Begun}
    (notAscii : ¬ o < 0x80) (begun : begin? o position = some b) :
    IsUtf8 (o :: rest) ↔ Continues b.owed b.low b.high rest := by
  unfold begin? at begun
  constructor
  · intro h
    generalize same : o :: rest = octets at h
    cases h with
    | nil => cases same
    | cons isCharacter others =>
      cases isCharacter <;>
        simp only [List.nil_append, List.cons_append, List.cons.injEq] at same <;> grind [Continues, IsTail]
  · intro h
    split at begun
    · cases begun
    split at begun
    · -- two octets
      obtain rfl := Option.some.inj begun
      obtain ⟨x, octets, rfl, isSecond, others⟩ := continues_succ_iff.1 h
      exact IsUtf8.cons (.two (by grind) isSecond) others
    split at begun
    · -- three octets
      obtain rfl := Option.some.inj begun
      obtain ⟨x, _, rfl, isSecond, others⟩ := continues_succ_iff.1 h
      obtain ⟨y, octets, rfl, isThird, others⟩ := continues_succ_iff.1 others
      have isCharacter : IsCharacter [o, x, y] :=
        .three (by grind) (by grind [IsTail]) (by grind) (by grind) isThird
      exact IsUtf8.cons isCharacter others
    split at begun
    · -- four octets
      obtain rfl := Option.some.inj begun
      obtain ⟨x, _, rfl, isSecond, others⟩ := continues_succ_iff.1 h
      obtain ⟨y, _, rfl, isThird, others⟩ := continues_succ_iff.1 others
      obtain ⟨z, octets, rfl, isFourth, others⟩ := continues_succ_iff.1 others
      have isCharacter : IsCharacter [o, x, y, z] :=
        .four (by grind) (by grind [IsTail]) (by grind) (by grind) isThird isFourth
      exact IsUtf8.cons isCharacter others
    · cases begun

theorem readFrom_eq_ok_iff {octets : List UInt8} (position : Nat) {pending : Option Begun}
    (owes : ∀ b, pending = some b → 0 < b.owed) (done : List Char) :
    (∃ cs, readFrom octets position pending done = .ok cs) ↔ MayFollow pending octets := by
  induction octets generalizing position pending done with
  | nil =>
    cases pending with
    | none => simp [readFrom, MayFollow, IsUtf8.nil]
    | some b =>
      obtain ⟨owed, isOwed⟩ := Nat.exists_eq_add_one.2 (owes b rfl)
      simp [readFrom, MayFollow, isOwed, Continues]
  | cons o octets ih =>
    cases pending with
    | none =>
      rw [readFrom, MayFollow]
      split
      case isTrue ascii =>
        rw [isUtf8_of_lt ascii]
        exact ih (position + 1) (by simp) _
      case isFalse notAscii =>
        cases begun : begin? o position with
        | none => simp [not_isUtf8_of_begin?_eq_none notAscii begun]
        | some b =>
          rw [isUtf8_of_begin?_eq_some notAscii begun]
          exact ih (position + 1) (by simpa using owed_pos_of_begin? begun) done
    | some b =>
      obtain ⟨owed, isOwed⟩ := Nat.exists_eq_add_one.2 (owes b rfl)
      rw [readFrom, MayFollow, isOwed, Continues]
      split
      case isTrue inRange =>
        simp only [inRange, true_and]
        cases owed with
        | zero =>
          simp only [Nat.zero_add, if_true]
          exact ih (position + 1) (by simp) _
        | succ owed =>
          simp only [Nat.add_eq_right, Nat.succ_ne_zero, if_false]
          exact ih (position + 1) (by simp) _
      case isFalse outside => simp [outside]

/-- Octets are decoded exactly when they are in UTF-8. -/
theorem decode_eq_ok_iff {octets : List UInt8} :
    (∃ cs, decode octets = .ok cs) ↔ IsUtf8 octets :=
  readFrom_eq_ok_iff 0 (by simp) []

end Utf8
end TypeDisplay
