import TypeDisplay.Calendar
import TypeDisplay.Json

/-!
# Timestamps as they are written

A timestamp is a date, which a time of day may follow after a `T` or blanks.  A time has
seconds, may have a fraction of them, and may have an offset from universal time.  Months,
days, hours and hours of an offset may lack their first digit.  Reading a timestamp does
not ask whether the date exists.
-/

namespace TypeDisplay
namespace Yaml

structure Clock where
  hour : Nat
  minute : Nat
  second : Nat
  fraction : List Char
  /-- In minutes; `Z` is no minutes. -/
  offset : Option Int

structure Timestamp where
  year : Nat
  month : Nat
  day : Nat
  /-- Whether month and day have two digits each. -/
  isPadded : Bool
  clock : Option Clock

namespace Timestamp

abbrev Part := Option (List Char × List Char)

/-- Takes as many digits as there are up to `most`, and no fewer than `least`. -/
def digits (least most : Nat) (cs : List Char) : Part :=
  let read := (cs.takeWhile Char.isDigit).take most
  if least ≤ read.length then some (read, cs.drop read.length) else none

def character (c : Char) : List Char → Option (List Char)
  | d :: rest => if c = d then some rest else none
  | [] => none

def isBlank (c : Char) : Bool := c == ' ' || c == '\t'

/-- An offset up to the end of the text. -/
def offset? (cs : List Char) : Option (Option Int) :=
  match cs with
  | [] => some none
  | _ =>
      match cs.dropWhile isBlank with
      | ['Z'] => some (some 0)
      | sign :: rest =>
          if sign = '+' ∨ sign = '-' then do
            let (hours, rest) ← digits 1 2 rest
            let minutes ←
              match rest with
              | [] => some []
              | ':' :: rest =>
                  match digits 2 2 rest with
                  | some (minutes, []) => some minutes
                  | _ => none
              | _ => none
            let total : Int := (Json.valueOf hours * 60 + Json.valueOf minutes : Nat)
            return some (if sign = '-' then -total else total)
          else none
      | [] => none

def clock? (cs : List Char) : Option Clock := do
  let (hour, cs) ← digits 1 2 cs
  let (minute, cs) ← digits 2 2 (← character ':' cs)
  let (second, cs) ← digits 2 2 (← character ':' cs)
  let (fraction, cs) :=
    match cs with
    | '.' :: rest => (rest.takeWhile Char.isDigit, rest.dropWhile Char.isDigit)
    | _ => ([], cs)
  let offset ← offset? cs
  return ⟨Json.valueOf hour, Json.valueOf minute, Json.valueOf second, fraction, offset⟩

/-- The time of day after its separator, or the end of the text. -/
def daytime? (cs : List Char) : Option (Option Clock) :=
  match cs with
  | [] => some none
  | c :: rest =>
      if c = 'T' ∨ c = 't' then (clock? rest).map some
      else if isBlank c then (clock? (rest.dropWhile isBlank)).map some
      else none

def read? (cs : List Char) : Option Timestamp := do
  let (year, cs) ← digits 4 4 cs
  let (month, cs) ← digits 1 2 (← character '-' cs)
  let (day, cs) ← digits 1 2 (← character '-' cs)
  let clock ← daytime? cs
  return ⟨Json.valueOf year, Json.valueOf month, Json.valueOf day,
    month.length == 2 && day.length == 2, clock⟩

/-- A final line feed does not count. -/
def dropFinalBreak (cs : List Char) : List Char :=
  if cs.getLast? = some '\n' then cs.dropLast else cs

/-- A date alone is only recognised when it is padded. -/
def isRecognised (cs : List Char) : Bool :=
  match read? cs with
  | some t => t.isPadded || t.clock.isSome
  | none => false

/-- The first six digits of a fraction, filled with zeros. -/
def microseconds (fraction : List Char) : Nat :=
  let kept := fraction.take 6
  Json.valueOf (kept ++ List.replicate (6 - kept.length) '0')

/-- The date or moment that is meant, when there is such a day and time. -/
def resolve (t : Timestamp) : Except CalendarError (Date ⊕ Moment) :=
  match t.clock with
  | none => (Date.ofParts t.year t.month t.day).map .inl
  | some c =>
      (Moment.ofParts t.year t.month t.day c.hour c.minute c.second
        (microseconds c.fraction) c.offset).map .inr

end Timestamp
end Yaml
end TypeDisplay
