import TypeDisplay.Document
import TypeDisplay.Text.Blank
import TypeDisplay.Text.Utf8
import TypeDisplay.Validation.Detail

/-!
# Conversions of field values

A field accepts more than values of its own type.  A rank may be a truth value, a float
without a fractional part or a decimal text; a flag may be a number equal to 0 or 1 or one
of a few words; and octets that decode stand for their text everywhere.  A text with surrogates
can be a name, and nothing else.
-/

namespace TypeDisplay
namespace Conversion

/-- Drops zeros and underscores in front of a number that begins with a zero, up to a digit, a
minus, or the zero before a point.  If nothing else is there, the last character stays. -/
def dropZeros (last : Char) : List Char → Option (List Char)
  | [] => some [last]
  | c :: rest =>
      if c = '0' ∨ c = '_' then dropZeros c rest
      else if ('1' ≤ c ∧ c ≤ '9') ∨ c = '-' then some (c :: rest)
      else if c = '.' then some (last :: c :: rest)
      else none

def withoutZeros : List Char → Option (List Char)
  | [] => none
  | c :: rest =>
      if c = '0' then dropZeros c rest
      else if ('1' ≤ c ∧ c ≤ '9') ∨ c = '-' then some (c :: rest)
      else none

/-- A number without a point and the zeros after it. -/
def withoutFraction (cs : List Char) : List Char :=
  match cs.dropWhile (· != '.') with
  | _ :: zero :: zeros =>
      if (zero :: zeros).all (· == '0') then cs.takeWhile (· != '.') else cs
  | _ => cs

def doublesUnderscore : List Char → Bool
  | a :: b :: rest => (a == '_' && b == '_') || doublesUnderscore (b :: rest)
  | _ => false

/-- A number without single underscores inside it; others stay. -/
def withoutUnderscores (cs : List Char) : List Char :=
  if cs.head? = some '_' ∨ cs.getLast? = some '_' ∨ doublesUnderscore cs then cs
  else cs.filter (· != '_')

inductive BadInteger where
  | unreadable | tooLarge
  deriving DecidableEq, Repr

/-- The characters up to which the text of an integer is read. -/
def integerLimit : Nat := 4300

/-- Digits after a minus or none, of which a zero stands alone.  Too many digits are refused
whatever comes after them. -/
def readDigits (isNegative : Bool) (cs : List Char) : Except BadInteger Int :=
  let digits := cs.takeWhile Char.isDigit
  if digits.head? = some '0' ∧ digits.length ≠ 1 then .error .unreadable
  else if integerLimit < digits.length + (if isNegative then 1 else 0) then .error .tooLarge
  else if digits.isEmpty ∨ digits.length ≠ cs.length then .error .unreadable
  else
    let n : Int := (digits.foldl (fun n c ↦ n * 10 + (c.toNat - 48)) 0 : Nat)
    .ok (if isNegative then -n else n)

def readSigned (isNegative : Bool) (cs : List Char) : Except BadInteger Int :=
  match withoutZeros cs with
  | none => .error .unreadable
  | some cs =>
      match isNegative, withoutUnderscores (withoutFraction cs) with
      | false, '-' :: digits => readDigits true digits
      | isNegative, digits => readDigits isNegative digits

/-- A decimal integer between blanks with an optional sign, which may end in a point and zeros.
After zeros in front a further minus counts as well. -/
def integerOf (cs : List Char) : Except BadInteger Int :=
  match Text.trim cs with
  | '+' :: '-' :: _ => .error .unreadable
  | '+' :: rest => readSigned false rest
  | '-' :: rest => readSigned true rest
  | rest => readSigned false rest

def lowercase (cs : List Char) : List Char :=
  cs.map Char.toLower

/-- The words for a flag, which ignore the case of ASCII letters. -/
def flagWord? (cs : List Char) : Option Bool :=
  let word := String.ofList (lowercase cs)
  if ["1", "t", "true", "y", "yes", "on"].contains word then some true
  else if ["0", "f", "false", "n", "no", "off"].contains word then some false
  else none

def text : Document → Checked Text
  | .scalar (.text s) => .ok s
  | .scalar (.bytes octets) =>
      match Utf8.decode octets with
      | .ok cs => .ok (.ofChars cs)
      | .error _ => Checked.fail .textUndecodable
  | _ => Checked.fail .notText

/-- What the characters of a text are read as. -/
def fromText {α : Type} (read : List Char → Checked α) (text : Text) : Checked α :=
  match text.chars? with
  | some cs => read cs
  | none => Checked.fail .textUndecodable

def integerFromChars (cs : List Char) : Checked Int :=
  match integerOf cs with
  | .ok n => .ok n
  | .error .unreadable => Checked.fail .integerUnreadable
  | .error .tooLarge => Checked.fail .integerTooLarge

/-- The integers that are read as numbers where a flag is expected. -/
def fitsWord (n : Int) : Bool :=
  -9223372036854775808 ≤ n && n ≤ 9223372036854775807

/-- The integers that a float may stand for. -/
def fitsFloat (n : Int) : Bool :=
  -9223372036854775808 < n && n < 9223372036854775808

def integer : Document → Checked Int
  | .scalar (.int n) => .ok n
  | .scalar (.bool b) => .ok (if b then 1 else 0)
  | .scalar (.float x) =>
      match x.toInt? with
      | some n => if fitsFloat n then .ok n else Checked.fail .integerTooLarge
      | none => Checked.fail (if x.isFinite then .fractionalPart else .notFinite)
  | .scalar (.text s) => fromText integerFromChars s
  | .scalar (.bytes octets) =>
      match Utf8.decode octets with
      | .ok cs => integerFromChars cs
      | .error _ => Checked.fail .integerUnreadable
  | _ => Checked.fail .notInteger

/-- A rank is an integer of at least one. -/
def rank (d : Document) : Checked Int :=
  match integer d with
  | .ok n => if 1 ≤ n then .ok n else Checked.fail .belowOne
  | .error details => .error details

def flagFromChars (cs : List Char) : Checked Bool :=
  match flagWord? cs with
  | some b => .ok b
  | none => Checked.fail .flagUnreadable

def flagFromInteger (n : Int) : Checked Bool :=
  if n = 0 then .ok false
  else if n = 1 then .ok true
  else Checked.fail .flagUnreadable

def flag : Document → Checked Bool
  | .scalar (.bool b) => .ok b
  | .scalar (.int n) => if fitsWord n then flagFromInteger n else Checked.fail .notFlag
  | .scalar (.float x) =>
      match x.toInt? with
      | some n => if fitsFloat n then flagFromInteger n else Checked.fail .notFlag
      | none => Checked.fail .notFlag
  | .scalar (.text s) => fromText flagFromChars s
  | .scalar (.bytes octets) =>
      match Utf8.decode octets with
      | .ok cs => flagFromChars cs
      | .error _ => Checked.fail .flagUnreadable
  | _ => Checked.fail .notFlag

def flag? : Document → Checked (Option Bool)
  | .scalar .null => .ok none
  | d =>
      match flag d with
      | .ok b => .ok (some b)
      | .error details => .error details

def primitiveFromChars (cs : List Char) : Checked Primitive :=
  match Primitive.ofKeyword? (String.ofList cs) with
  | some p => .ok p
  | none => Checked.fail .notPrimitive

def primitive : Document → Checked Primitive
  | .scalar (.text s) => fromText primitiveFromChars s
  | _ => Checked.fail .notPrimitive

def wellKnownFromChars (cs : List Char) : Checked (Option WellKnown) :=
  if String.ofList cs = WellKnown.nullable.identity then .ok (some .nullable)
  else Checked.fail .notWellKnown

def wellKnown? : Document → Checked (Option WellKnown)
  | .scalar .null => .ok none
  | .scalar (.text s) => fromText wellKnownFromChars s
  | _ => Checked.fail .notWellKnown

def texts : (index : Nat) → List Document → Checked (List Text)
  | _, [] => .ok []
  | index, item :: rest =>
      match Checked.both ((text item).within (.index index)) (texts (index + 1) rest) with
      | .ok (s, others) => .ok (s :: others)
      | .error details => .error details

def segments : Document → Checked (List Text)
  | .list items => texts 0 items
  | .set items => texts 0 (items.map Document.scalar)
  | _ => Checked.fail .notSequence

end Conversion
end TypeDisplay
