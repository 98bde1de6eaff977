/-!
# Binary floating-point numbers

Numbers of the 64-bit binary format, as a sign, a 53-bit mantissa and an exponent of two.
Rounding is to nearest, and a tie goes to the even mantissa.  Everything is computed in
exact integer arithmetic.
-/

namespace TypeDisplay

/-- A finite value is `± mantissa * 2 ^ exponent`. -/
inductive Binary64 where
  | finite (negative : Bool) (mantissa : Nat) (exponent : Int)
  | infinite (negative : Bool)
  | nan
  deriving DecidableEq, Repr

namespace Binary64

/-- A power of two; the exponent is not negative. -/
def twoTo (e : Int) : Nat := Nat.pow 2 e.toNat

/-- A power of ten; the exponent is not negative. -/
def tenTo (e : Int) : Nat := Nat.pow 10 e.toNat

/-- The integer nearest to `num / den`, where a tie goes to the even one. -/
def nearest (num den : Nat) : Nat :=
  let floor := num / den
  let rest := 2 * (num % den)
  if den < rest ∨ (rest = den ∧ floor % 2 = 1) then floor + 1 else floor

/-- The quotient `num / (den * 2 ^ e)` rounded to an integer. -/
def scaled (num den : Nat) (e : Int) : Nat :=
  if 0 ≤ e then nearest num (den * twoTo e) else nearest (num * twoTo (-e)) den

/-- The least exponent, that of the subnormal numbers. -/
def leastExponent : Int := -1074

def greatestExponent : Int := 971

/-- The exponent of the mantissa for `num / den`: the mantissa then has 53 bits, or fewer
at the least exponent. -/
def exponentFor (num den : Nat) : Int :=
  let guess : Int := (num.log2 : Int) - den.log2 - 53
  let fits := scaled num den guess < twoTo 53
  max leastExponent (if fits then guess else guess + 1)

/-- The number nearest to `± num / den`. -/
def ofRatio (negative : Bool) (num den : Nat) : Binary64 :=
  if num = 0 then finite negative 0 leastExponent
  else
    let e := exponentFor num den
    let m := scaled num den e
    let (m, e) := if m = twoTo 53 then (twoTo 52, e + 1) else (m, e)
    if greatestExponent < e then infinite negative else finite negative m e

def decimalLength (n : Nat) : Nat :=
  (Nat.toDigits 10 n).length

/-- The number nearest to `± digits * 10 ^ exponent`.  Exponents far outside the format's
range are decided by their size alone. -/
def ofDecimal (negative : Bool) (digits : Nat) (exponent : Int) : Binary64 :=
  if digits = 0 then finite negative 0 leastExponent
  else if 400 < exponent then infinite negative
  else if (decimalLength digits : Int) + exponent < -400 then
    finite negative 0 leastExponent
  else if 0 ≤ exponent then ofRatio negative (digits * tenTo exponent) 1
  else ofRatio negative digits (tenTo (-exponent))

/-- The number nearest to `n * 2 ^ e`. -/
def ofDyadic (n : Int) (e : Int) : Binary64 :=
  if 0 ≤ e then ofRatio (n < 0) (n.natAbs * twoTo e) 1
  else ofRatio (n < 0) n.natAbs (twoTo (-e))

def signed (negative : Bool) (m : Nat) : Int :=
  if negative then -(m : Int) else m

def toInt? : Binary64 → Option Int
  | finite negative m e =>
      if 0 ≤ e then some (signed negative (m * twoTo e))
      else if m % twoTo (-e) = 0 then some (signed negative (m / twoTo (-e)))
      else none
  | _ => none

def isFinite : Binary64 → Bool
  | finite _ _ _ => true
  | _ => false

def neg : Binary64 → Binary64
  | finite negative m e => finite (!negative) m e
  | infinite negative => infinite (!negative)
  | nan => nan

def ofNat (n : Nat) : Binary64 := ofRatio false n 1

/-- The rounded sum.  An infinity wins over finite numbers, and infinities of both signs have no
sum. -/
def add : Binary64 → Binary64 → Binary64
  | finite s m e, finite s' m' e' =>
      let low := min e e'
      let sum := signed s (m * twoTo (e - low)) + signed s' (m' * twoTo (e' - low))
      if sum = 0 then finite (s && s') 0 leastExponent else ofDyadic sum low
  | infinite s, infinite s' => if s = s' then infinite s else nan
  | nan, _ | _, nan => nan
  | infinite s, _ | _, infinite s => infinite s

/-- The rounded product.  An infinity and zero have none. -/
def mul : Binary64 → Binary64 → Binary64
  | finite s m e, finite s' m' e' =>
      if m = 0 ∨ m' = 0 then finite (s != s') 0 leastExponent
      else ofDyadic (signed (s != s') (m * m')) (e + e')
  | nan, _ | _, nan => nan
  | infinite s, infinite s' => infinite (s != s')
  | infinite s, finite s' m _ | finite s m _, infinite s' =>
      if m = 0 then nan else infinite (s != s')

/-- Equality of numbers: the zeros are equal, and nothing equals a NaN. -/
def same : Binary64 → Binary64 → Bool
  | nan, _ | _, nan => false
  | finite s m e, finite s' m' e' => (m == 0 && m' == 0) || (s == s' && m == m' && e == e')
  | infinite s, infinite s' => s == s'
  | _, _ => false

end Binary64
end TypeDisplay
