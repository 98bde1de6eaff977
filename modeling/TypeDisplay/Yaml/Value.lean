import TypeDisplay.Document
import TypeDisplay.Number.Decimal
import TypeDisplay.Text.Base64
import TypeDisplay.Text.Lower
import TypeDisplay.Yaml.Failure
import TypeDisplay.Yaml.Tag
import TypeDisplay.Yaml.Timestamp

/-!
# Values of scalars

The value of a scalar's text under its tag.  Underscores in numbers do not count, a leading
zero means base eight, and colons separate the places of a number to the base of sixty.
-/

namespace TypeDisplay
namespace Yaml
namespace Value

abbrev Result := Except BadScalar Scalar

/-- The characters of a text, in which a mark that belongs to no number stands for every
surrogate. -/
def marked (text : Text) : List Char :=
  text.map fun p ↦ p.char?.getD '?'

/-! ### Integers -/

/-- The letter of a base in front of digits, between a zero and them. -/
def baseLetter? : Nat → Option Char
  | 2 => some 'b'
  | 8 => some 'o'
  | 16 => some 'x'
  | _ => none

/-- Passes over a zero and the letter of a base. -/
def dropBase (base : Nat) (cs : List Char) : List Char :=
  match cs, baseLetter? base with
  | '0' :: c :: rest, some letter => if c.toLower = letter then rest else cs
  | _, _ => cs

def digit? (base : Nat) (c : Char) : Option Nat :=
  (Json.hexValue? c).filter (· < base)

/-- An integer to a base, which may have a sign and stand between blanks.  The number of decimal
digits is limited, whatever comes after them. -/
def integerTo (base : Nat) (text : Text) : Except BadScalar Int := do
  let bad := BadScalar.integer base text
  let (negative, rest) := Decimal.signOf (Decimal.plain (marked text))
  let digits := dropBase base rest
  let length := (digits.takeWhile Char.isDigit).length
  if base = 10 ∧ Decimal.digitLimit < length then throw (.integerTooLong length)
  if digits.isEmpty then throw bad
  match digits.mapM (digit? base) with
  | none => throw bad
  | some ds =>
      let n : Nat := ds.foldl (fun n d ↦ n * base + d) 0
      return if negative then -(n : Int) else n

/-- The value of places to the base of sixty, the first one weighing most. -/
def sixtieths (places : List Int) : Int :=
  places.foldl (fun n place ↦ n * 60 + place) 0

def colon : CodePoint := .char ':'

def unsigned (text : Text) : Except BadScalar Int :=
  match text with
  | [] => .error .emptyNumber
  | [.char '0'] => .ok 0
  | .char '0' :: .char 'b' :: digits => integerTo 2 digits
  | .char '0' :: .char 'x' :: digits => integerTo 16 digits
  | .char '0' :: _ => integerTo 8 text
  | _ =>
      if text.contains colon then ((text.splitOn colon).mapM (integerTo 10)).map sixtieths
      else integerTo 10 text

/-- Splits off a sign; the flag says whether it is a minus. -/
def signOf : Text → Bool × Text
  | .char '-' :: rest => (true, rest)
  | .char '+' :: rest => (false, rest)
  | rest => (false, rest)

def withoutUnderscores (text : Text) : Text :=
  text.filter (· != .char '_')

def number (text : Text) : Except BadScalar (Bool × Text) :=
  match text with
  | [] => .error .emptyNumber
  | text => .ok (signOf text)

def integer (text : Text) : Result := do
  let (negative, rest) ← number (withoutUnderscores text)
  let n ← unsigned rest
  return .int (if negative then -n else n)

/-! ### Floats -/

def floatPart (text : Text) : Except BadScalar Binary64 :=
  match Decimal.read? (marked text) with
  | some x => .ok x
  | none => .error (.float text)

/-- The sum of places to the base of sixty, least place first.  Every weight is rounded to a
float, which is why it may be too large, and then every step is. -/
def sumOfPlaces : List Binary64 → (weight : Nat) → (sum : Binary64) → Except BadScalar Binary64
  | [], _, sum => .ok sum
  | x :: rest, weight, sum =>
      match Binary64.ofNat weight with
      | .finite s m e => sumOfPlaces rest (weight * 60) (sum.add (x.mul (.finite s m e)))
      | _ => .error .floatTooLarge

/-- The word for no number at all, which may have a sign in front. -/
def nanWord : Text := ".nan"

def unsignedFloat (text : Text) : Except BadScalar Binary64 :=
  if text = ".inf" then .ok (.infinite false)
  else if text = nanWord then .ok .nan
  else if text.contains colon then do
    let places ← (text.splitOn colon).mapM floatPart
    sumOfPlaces places.reverse 1 (.ofNat 0)
  else floatPart text

/-- The sign of a float, and what follows it in lower case. -/
def lowerNumber (text : Text) : Except BadScalar (Bool × Text) :=
  number (Text.lower (withoutUnderscores text))

def float (text : Text) : Result := do
  let (negative, rest) ← lowerNumber text
  let x ← unsignedFloat rest
  return .float (if negative then x.neg else x)

/-- Whether a text is the word for no number at all, and not a number that happens to be none. -/
def isNanWord (text : Text) : Bool :=
  match lowerNumber text with
  | .ok (_, rest) => rest = nanWord
  | .error _ => false

/-! ### Other scalars -/

def isWord (words : List String) (text : Text) : Bool :=
  text.string?.any words.contains

def flag (text : Text) : Result :=
  let word := Text.lower text
  if isWord ["yes", "true", "on"] word then .ok (.bool true)
  else if isWord ["no", "false", "off"] word then .ok (.bool false)
  else .error (.flag word)

def timestamp (text : Text) : Result :=
  match text.chars?.bind fun cs ↦ Timestamp.read? (Timestamp.dropFinalBreak cs) with
  | none => .error .timestamp
  | some t =>
      match t.resolve with
      | .ok (.inl date) => .ok (.date date)
      | .ok (.inr moment) => .ok (.moment moment)
      | .error e => .error (.calendar e)

/-- Octets are written in base64. -/
def octets (text : Text) : Except Failure Scalar :=
  match text.chars?.filter fun cs ↦ cs.all fun c ↦ c.toNat < 0x80 with
  | none => .error (.malformed .octets)
  | some cs =>
      match Base64.decode? cs with
      | some octets => .ok (.bytes octets)
      | none => .error (.malformed .octets)

/-- The value of a text under a tag for scalars. -/
def ofText (tag : Tag) (text : Text) : Except Failure Scalar :=
  match tag with
  | .null => .ok .null
  | .flag => (flag text).mapError .badScalar
  | .integer => (integer text).mapError .badScalar
  | .float => (float text).mapError .badScalar
  | .timestamp => (timestamp text).mapError .badScalar
  | .octets => octets text
  | .text => .ok (.text text)
  | _ => .error (.malformed .tag)

end Value
end Yaml
end TypeDisplay
