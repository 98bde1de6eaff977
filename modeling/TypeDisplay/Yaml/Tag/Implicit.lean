import TypeDisplay.Json
import TypeDisplay.Yaml.Tag
import TypeDisplay.Yaml.Timestamp

/-!
# Tags of plain scalars

A plain scalar without a tag gets the tag of the first notation that it has: a flag, a
number, a merge key, null, a timestamp, or the key of a value.  Everything else is text.
-/

namespace TypeDisplay
namespace Yaml
namespace Implicit

def isDigitOrBreak (c : Char) : Bool := c.isDigit || c == '_'

def dropSign : List Char → List Char
  | c :: rest => if c = '+' ∨ c = '-' then rest else c :: rest
  | [] => []

def flagWords : List String :=
  ["yes", "Yes", "YES", "no", "No", "NO", "true", "True", "TRUE", "false", "False", "FALSE",
    "on", "On", "ON", "off", "Off", "OFF"]

/-- A place of a number to the base of sixty: one digit, or two below sixty. -/
def isSixtieth : List Char → Bool
  | [d] => d.isDigit
  | [t, d] => '0' ≤ t && t ≤ '5' && d.isDigit
  | _ => false

def isDigitRun : List Char → Bool
  | c :: rest => c.isDigit && rest.all isDigitOrBreak
  | [] => false

def isInteger (cs : List Char) : Bool :=
  match dropSign cs with
  | '0' :: 'b' :: ds => !ds.isEmpty && ds.all fun c ↦ c == '0' || c == '1' || c == '_'
  | '0' :: 'x' :: ds => !ds.isEmpty && ds.all fun c ↦ (Json.hexValue? c).isSome || c == '_'
  | ['0'] => true
  | '0' :: ds => ds.all fun c ↦ ('0' ≤ c && c ≤ '7') || c == '_'
  | ds =>
      match ds.splitOn ':' with
      | whole :: places => isDigitRun whole && places.all isSixtieth
      | [] => false

/-- An exponent with a sign, or nothing. -/
def isExponent : List Char → Bool
  | [] => true
  | e :: sign :: ds =>
      (e == 'e' || e == 'E') && (sign == '+' || sign == '-') && !ds.isEmpty &&
        ds.all Char.isDigit
  | _ => false

def isFraction (cs : List Char) : Bool :=
  isExponent (cs.dropWhile isDigitOrBreak)

/-- Sixtieths, of which the last one has a point and further digits. -/
def endsInSixtieths : List (List Char) → Bool
  | [] => false
  | [last] =>
      isSixtieth (last.takeWhile (· != '.')) &&
        match last.dropWhile (· != '.') with
        | _ :: fraction => fraction.all isDigitOrBreak
        | [] => false
  | place :: rest => isSixtieth place && endsInSixtieths rest

def isFloat (cs : List Char) : Bool :=
  let unsigned := dropSign cs
  let word := String.ofList unsigned
  if [".inf", ".Inf", ".INF"].contains word then true
  else
    match cs with
    | '.' :: ds =>
        [".nan", ".NaN", ".NAN"].contains word ||
          match ds with
          | d :: rest => d.isDigit && isFraction rest
          | [] => false
    | _ =>
        let whole := unsigned.takeWhile isDigitOrBreak
        isDigitRun whole &&
          match unsigned.drop whole.length with
          | '.' :: rest => isFraction rest
          | ':' :: rest => endsInSixtieths (rest.splitOn ':')
          | _ => false

def tagOf (text : List Char) : Tag :=
  if text.isEmpty then .null
  else
    let cs := Timestamp.dropFinalBreak text
    let word := String.ofList cs
    if flagWords.contains word then .flag
    else if isFloat cs then .float
    else if isInteger cs then .integer
    else if word == "<<" then .merge
    else if ["~", "null", "Null", "NULL"].contains word then .null
    else if Timestamp.isRecognised cs then .timestamp
    else if word == "=" then .value
    else if ["!", "&", "*"].contains word then .unknown
    else .text

/-- The tag of a plain scalar.  A text with surrogates has no other notation. -/
def tagOfText (text : Text) : Tag :=
  match text.chars? with
  | some cs => tagOf cs
  | none => .text

end Implicit
end Yaml
end TypeDisplay
