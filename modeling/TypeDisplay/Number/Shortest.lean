import TypeDisplay.Number.Binary64

/-!
# Shortest decimal text

A finite number is written with the fewest digits that read back as the same number, and
among those with the digits nearest to it.  For each number of digits only the two
neighbours of the value on that decimal grid need to be tried.
-/

namespace TypeDisplay
namespace Binary64

/-- The magnitude as a ratio of two natural numbers. -/
def ratio (m : Nat) (e : Int) : Nat × Nat :=
  if 0 ≤ e then (m * twoTo e, 1) else (m, twoTo (-e))

/-- The position of the decimal point: `10 ^ (p - 1) ≤ num / den < 10 ^ p` for a positive
magnitude of this format. -/
def pointPosition (num den : Nat) : Int :=
  (decimalLength (num * tenTo 340 / den) : Int) - 340

/-- The neighbours of `num / den` among the multiples of `10 ^ unit`, nearer one first. -/
def neighbours (num den : Nat) (unit : Int) : List Nat :=
  let (num, den) :=
    if 0 ≤ unit then (num, den * tenTo unit) else (num * tenTo (-unit), den)
  let floor := num / den
  if nearest num den = floor then [floor, floor + 1] else [floor + 1, floor]

/-- Tries one digit more after another, up to `budget` more. -/
def searchDigits (value : Binary64) (num den : Nat) (point : Int) :
    (budget digits : Nat) → Nat × Int
  | 0, digits => ((neighbours num den (point - digits)).headD 0, point - digits)
  | budget + 1, digits =>
      let unit := point - digits
      match (neighbours num den unit).find? fun n ↦ ofDecimal false n unit == value with
      | some n => (n, unit)
      | none => searchDigits value num den point budget (digits + 1)

/-- The digits and the exponent of ten of the shortest decimal for a positive magnitude. -/
def shortest (m : Nat) (e : Int) : Nat × Int :=
  let (num, den) := ratio m e
  searchDigits (finite false m e) num den (pointPosition num den) 16 1

/-- Digits without their trailing zeros, and how many zeros were dropped. -/
def dropZeros (digits : List Char) : List Char × Nat :=
  let kept := (digits.reverse.dropWhile (· == '0')).reverse
  (kept, digits.length - kept.length)

/-- Positional notation has at most sixteen digits before the point and at most four zeros
after it, and keeps at least one digit after the point.  The exponent otherwise has a sign
and at least two digits. -/
def layout (digits : List Char) (point : Int) : String :=
  let n : Int := digits.length
  if -4 < point ∧ point ≤ 16 then
    if point ≤ 0 then
      "0." ++ String.ofList (List.replicate (-point).toNat '0' ++ digits)
    else if n ≤ point then
      String.ofList (digits ++ List.replicate (point - n).toNat '0') ++ ".0"
    else
      String.ofList (digits.take point.toNat) ++ "." ++
        String.ofList (digits.drop point.toNat)
  else
    let shift := point - 1
    let power := toString shift.natAbs
    let tail := if digits.length ≤ 1 then "" else "." ++ String.ofList (digits.drop 1)
    String.ofList (digits.take 1) ++ tail ++ "e" ++ (if shift < 0 then "-" else "+") ++
      (if power.length < 2 then "0" ++ power else power)

def text : Binary64 → String
  | nan => "nan"
  | infinite negative => if negative then "-inf" else "inf"
  | finite negative m e =>
      let body :=
        if m = 0 then "0.0"
        else
          let (digits, unit) := shortest m e
          let (kept, dropped) := dropZeros (Nat.toDigits 10 digits)
          layout kept (unit + dropped + kept.length)
      if negative then "-" ++ body else body

end Binary64
end TypeDisplay
