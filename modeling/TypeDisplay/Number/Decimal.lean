import TypeDisplay.Json
import TypeDisplay.Number.Binary64
import TypeDisplay.Text.Blank
import TypeDisplay.Text.Digit

/-!
# Decimal texts of numbers

A decimal text has digits of any script with at most one point among or around them and an
optional exponent.  The words for an infinity and for no number ignore the case of letters.
-/

namespace TypeDisplay
namespace Decimal

/-- The number of decimal digits up to which integers are read. -/
def digitLimit : Nat := 4300

/-- A number without the blanks around it and with ASCII digits for those of all scripts. -/
def plain (cs : List Char) : List Char :=
  (Text.trim cs).map Text.plainDigit

/-- Splits off a sign; the flag says whether it is a minus. -/
def signOf : List Char → Bool × List Char
  | '-' :: rest => (true, rest)
  | '+' :: rest => (false, rest)
  | rest => (false, rest)

def exponent? : List Char → Option Int
  | [] => some 0
  | c :: rest =>
      if c = 'e' ∨ c = 'E' then
        let (negative, digits) := signOf rest
        if digits.isEmpty || !digits.all Char.isDigit then none
        else
          let n : Int := Json.valueOf digits
          some (if negative then -n else n)
      else none

/-- A number without a sign. -/
def magnitude? (negative : Bool) (cs : List Char) : Option Binary64 :=
  let word := String.ofList (cs.map Char.toLower)
  if word == "inf" || word == "infinity" then some (.infinite negative)
  else if word == "nan" then some .nan
  else
    let whole := cs.takeWhile Char.isDigit
    let afterWhole := cs.drop whole.length
    let (fraction, rest) :=
      match afterWhole with
      | '.' :: more => (more.takeWhile Char.isDigit, more.dropWhile Char.isDigit)
      | more => ([], more)
    let digits := whole ++ fraction
    if digits.isEmpty then none
    else
      (exponent? rest).map fun e ↦
        .ofDecimal negative (Json.valueOf digits) (e - fraction.length)

/-- The number nearest to a decimal text, which may stand between blanks. -/
def read? (cs : List Char) : Option Binary64 :=
  let (negative, rest) := signOf (plain cs)
  magnitude? negative rest

end Decimal
end TypeDisplay
