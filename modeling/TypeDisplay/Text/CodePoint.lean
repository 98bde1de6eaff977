/-!
# Code points

A text may hold surrogates that stand on their own, which are no characters.  So a text is a list
of code points, and it is a string when all of them are characters.
-/

namespace TypeDisplay

inductive CodePoint where
  | char (c : Char)
  /-- One unit of a pair that stands for one character. -/
  | surrogate (unit : Nat)
  deriving DecidableEq, Repr

namespace CodePoint

/-- The first units of pairs. -/
def isHigh (unit : Nat) : Bool := 0xD800 ≤ unit && unit < 0xDC00

/-- The second units of pairs. -/
def isLow (unit : Nat) : Bool := 0xDC00 ≤ unit && unit < 0xE000

def ofNumber (n : Nat) : CodePoint :=
  if isHigh n || isLow n then surrogate n else char (Char.ofNat n)

/-- The character that two units stand for. -/
def ofPair (high low : Nat) : CodePoint :=
  char (Char.ofNat (0x10000 + (high - 0xD800) * 0x400 + (low - 0xDC00)))

def number : CodePoint → Nat
  | char c => c.toNat
  | surrogate unit => unit

def char? : CodePoint → Option Char
  | char c => some c
  | surrogate _ => none

end CodePoint

abbrev Text := List CodePoint

namespace Text

def ofChars (cs : List Char) : Text := cs.map .char

def ofString (s : String) : Text := ofChars s.toList

instance : Coe String Text := ⟨ofString⟩

/-- The characters of a text without surrogates. -/
def chars? (text : Text) : Option (List Char) := text.mapM CodePoint.char?

def string? (text : Text) : Option String := (chars? text).map String.ofList

/-- The order of texts by code points. -/
def isLessOrEqual : Text → Text → Bool
  | [], _ => true
  | _ :: _, [] => false
  | p :: ps, q :: qs =>
      p.number < q.number || (p.number == q.number && isLessOrEqual ps qs)

/-- A text in which three replacement characters stand for every surrogate, one for each octet
that it would take. -/
def replaced (text : Text) : String :=
  String.ofList (text.flatMap fun
    | .char c => [c]
    | .surrogate _ => List.replicate 3 '\uFFFD')

theorem chars?_ofChars (cs : List Char) : chars? (ofChars cs) = some cs := by
  induction cs with
  | nil => rfl
  | cons c cs ih =>
    simp only [chars?, ofChars] at ih
    simp [chars?, ofChars, CodePoint.char?, ih]

theorem chars?_eq_some_iff {text : Text} {cs : List Char} :
    chars? text = some cs ↔ text = ofChars cs := by
  refine ⟨fun h ↦ ?_, fun h ↦ h ▸ chars?_ofChars cs⟩
  induction text generalizing cs with
  | nil =>
    obtain rfl : [] = cs := by simpa [chars?] using h
    rfl
  | cons p text ih =>
    cases p with
    | surrogate unit => simp [chars?, CodePoint.char?] at h
    | char c =>
      obtain ⟨rest, isRest, rfl⟩ : ∃ rest, chars? text = some rest ∧ c :: rest = cs := by
        simpa [chars?, CodePoint.char?, Option.bind_eq_some_iff] using h
      rw [ih isRest]
      rfl

theorem string?_ofString (s : String) : string? (ofString s) = some s := by
  simp [string?, ofString, chars?_ofChars]

theorem string?_eq_some_iff {text : Text} {s : String} :
    string? text = some s ↔ text = ofString s := by
  refine ⟨fun h ↦ ?_, fun h ↦ h ▸ string?_ofString s⟩
  obtain ⟨cs, areChars, rfl⟩ := Option.map_eq_some_iff.1 h
  rw [chars?_eq_some_iff.1 areChars, ofString, String.toList_ofList]

theorem ofString_injective {s t : String} (h : ofString s = ofString t) : s = t := by
  have same := congrArg string? h
  simpa [string?_ofString] using same

end Text
end TypeDisplay
