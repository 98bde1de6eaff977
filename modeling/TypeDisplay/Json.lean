import TypeDisplay.Document

/-!
# JSON texts

A strict reader of JSON.  Each step yields what it reads and the characters that are left.
Numbers without a fraction and an exponent are integers of any size, all others are rounded
to binary floating point, and of several members with one name the last counts.  An escaped
surrogate pair is one character, and a surrogate without its partner stands on its own.
-/

namespace TypeDisplay
namespace Json

def isBlank (c : Char) : Bool :=
  c == ' ' || c == '\t' || c == '\n' || c == '\r'

def skipBlanks (cs : List Char) : List Char :=
  cs.dropWhile isBlank

def hexValue? (c : Char) : Option Nat :=
  if c.isDigit then some (c.toNat - 48)
  else if 'a' ≤ c ∧ c ≤ 'f' then some (c.toNat - 87)
  else if 'A' ≤ c ∧ c ≤ 'F' then some (c.toNat - 55)
  else none

def fourDigits : List Char → Option (Nat × List Char)
  | a :: b :: c :: d :: rest => do
      let value ← [a, b, c, d].foldlM (fun n c ↦ (hexValue? c).map (n * 16 + ·)) 0
      return (value, rest)
  | _ => none

/-- The code point after `\u`. -/
def unitEscape (cs : List Char) : Option (CodePoint × List Char) := do
  let (unit, rest) ← fourDigits cs
  let alone := (CodePoint.ofNumber unit, rest)
  match CodePoint.isHigh unit, rest with
  | true, '\\' :: 'u' :: more =>
      match fourDigits more with
      | some (low, rest) =>
          if CodePoint.isLow low then some (CodePoint.ofPair unit low, rest) else some alone
      | none => some alone
  | _, _ => some alone

def simpleEscape? : Char → Option Char
  | '"' => some '"'
  | '\\' => some '\\'
  | '/' => some '/'
  | 'b' => some '\x08'
  | 'f' => some '\x0c'
  | 'n' => some '\n'
  | 'r' => some '\r'
  | 't' => some '\t'
  | _ => none

/-- The code points of a string up to its closing quote; `done` has the last one first. -/
def string : (fuel : Nat) → List Char → (done : Text) → Option (Text × List Char)
  | 0, _, _ => none
  | fuel + 1, cs, done =>
      match cs with
      | '"' :: rest => some (done.reverse, rest)
      | '\\' :: 'u' :: rest => do
          let (c, rest) ← unitEscape rest
          string fuel rest (c :: done)
      | '\\' :: c :: rest => do
          let c ← simpleEscape? c
          string fuel rest (.char c :: done)
      | c :: rest => if c.toNat < 0x20 then none else string fuel rest (.char c :: done)
      | [] => none

def digits (cs : List Char) : List Char × List Char :=
  cs.span Char.isDigit

def valueOf (digits : List Char) : Nat :=
  digits.foldl (fun n c ↦ n * 10 + (c.toNat - 48)) 0

def fraction : List Char → Option (List Char × List Char)
  | '.' :: rest =>
      match digits rest with
      | ([], _) => none
      | read => some read
  | rest => some ([], rest)

def exponentDigits (negative : Bool) (cs : List Char) : Option (Option Int × List Char) :=
  match digits cs with
  | ([], _) => none
  | (ds, rest) =>
      some (some (if negative then -(valueOf ds : Int) else (valueOf ds : Int)), rest)

def exponent : List Char → Option (Option Int × List Char)
  | e :: rest =>
      if e = 'e' ∨ e = 'E' then
        match rest with
        | '+' :: rest => exponentDigits false rest
        | '-' :: rest => exponentDigits true rest
        | rest => exponentDigits false rest
      else some (none, e :: rest)
  | [] => some (none, [])

/-- The digits before the point: a zero stands alone. -/
def whole (cs : List Char) : Option (List Char × List Char) :=
  match digits cs with
  | ([], _) => none
  | ('0' :: _ :: _, _) => none
  | read => some read

def number (negative : Bool) (cs : List Char) : Option (Document × List Char) := do
  let (ds, rest) ← whole cs
  let (places, rest) ← fraction rest
  let (power, rest) ← exponent rest
  let n := valueOf (ds ++ places)
  match places, power with
  | [], none => return (.int (if negative then -(n : Int) else n), rest)
  | _, _ =>
      return (.float (.ofDecimal negative n (power.getD 0 - places.length)), rest)

def word? (word : String) (value : Document) (cs : List Char) : Option (Document × List Char) :=
  if word.toList.isPrefixOf cs then some (value, cs.drop word.length) else none

mutual

/-- Reads a value.  No string in it has `size` characters. -/
def value (size : Nat) : (fuel : Nat) → List Char → Option (Document × List Char)
  | 0, _ => none
  | fuel + 1, cs =>
      match cs with
      | '\x7b' :: rest =>
          match skipBlanks rest with
          | '\x7d' :: rest => some (.mapping [], rest)
          | rest => (members size fuel rest []).map fun (ms, rest) ↦ (Document.ofEntries ms, rest)
      | '[' :: rest =>
          match skipBlanks rest with
          | ']' :: rest => some (.list [], rest)
          | rest => (elements size fuel rest []).map fun (ds, rest) ↦ (.list ds, rest)
      | '"' :: rest => (string size rest []).map fun (s, rest) ↦ (.scalar (.text s), rest)
      | '-' :: rest => number true rest
      | 't' :: _ => word? "true" (.bool true) cs
      | 'f' :: _ => word? "false" (.bool false) cs
      | 'n' :: _ => word? "null" .null cs
      | _ => number false cs

/-- The members of an object up to its closing brace; `done` has the last one first. -/
def members (size : Nat) : (fuel : Nat) → List Char → (done : List Document.Entry) →
    Option (List Document.Entry × List Char)
  | 0, _, _ => none
  | fuel + 1, cs, done =>
      match skipBlanks cs with
      | '"' :: rest => do
          let (name, rest) ← string size rest []
          match skipBlanks rest with
          | ':' :: rest =>
              let (d, rest) ← value size fuel (skipBlanks rest)
              let done := (.text name, d) :: done
              match skipBlanks rest with
              | ',' :: rest => members size fuel rest done
              | '\x7d' :: rest => return (done.reverse, rest)
              | _ => none
          | _ => none
      | _ => none

/-- The elements of an array up to its closing bracket; `done` has the last one first. -/
def elements (size : Nat) : (fuel : Nat) → List Char → (done : List Document) →
    Option (List Document × List Char)
  | 0, _, _ => none
  | fuel + 1, cs, done => do
      let (d, rest) ← value size fuel (skipBlanks cs)
      let done := d :: done
      match skipBlanks rest with
      | ',' :: rest => elements size fuel rest done
      | ']' :: rest => return (done.reverse, rest)
      | _ => none

end

/-- The value of a JSON text, or nothing when it is not one. -/
def read? (text : String) : Option Document :=
  let cs := text.toList
  let size := cs.length + 1
  match value size size (skipBlanks cs) with
  | some (d, rest) => if (skipBlanks rest).isEmpty then some d else none
  | none => none

end Json
end TypeDisplay
