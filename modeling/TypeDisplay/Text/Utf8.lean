import TypeDisplay.Text.Quoted

/-!
# Octets and text

Text is stored in UTF-8.  The decoder reads one octet at a time and stops at the first
octet that rules a character out, so that a failure names the octets of the character that
was begun.  Lines end in a line feed, and reading turns the other two line ends into it.

A surrogate has no octets, but in names of files some of them stand for one octet that belongs to
no character.
-/

namespace TypeDisplay
namespace Utf8

inductive Cause where
  | invalidStart | invalidContinuation | unexpectedEnd
  deriving DecidableEq, Repr

/-- A failure over the octets from `start` up to `stop`, the first of which is `octet`. -/
structure Failure where
  octet : UInt8
  start : Nat
  stop : Nat
  cause : Cause
  deriving DecidableEq, Repr

def Cause.message : Cause → String
  | invalidStart => "invalid start byte"
  | invalidContinuation => "invalid continuation byte"
  | unexpectedEnd => "unexpected end of data"

def Failure.message (f : Failure) : String :=
  let hex := Nat.toDigits 16 f.octet.toNat
  let place :=
    if f.stop = f.start + 1 then
      "byte 0x" ++ String.ofList (List.replicate (2 - hex.length) '0' ++ hex) ++
        " in position " ++ toString f.start
    else "bytes in position " ++ toString f.start ++ "-" ++ toString (f.stop - 1)
  "'utf-8' codec can't decode " ++ place ++ ": " ++ f.cause.message

/-- A character that was begun: its first octet and position, the bits so far, how many
octets are owed, and the range of the next one. -/
structure Begun where
  octet : UInt8
  start : Nat
  bits : Nat
  owed : Nat
  low : UInt8
  high : UInt8

/-- What the first octet of a character of several octets begins. -/
def begin? (octet : UInt8) (start : Nat) : Option Begun :=
  if octet < 0xC2 then none
  else if octet < 0xE0 then some ⟨octet, start, octet.toNat % 32, 1, 0x80, 0xBF⟩
  else if octet < 0xF0 then
    some ⟨octet, start, octet.toNat % 16, 2, if octet = 0xE0 then 0xA0 else 0x80,
      if octet = 0xED then 0x9F else 0xBF⟩
  else if octet < 0xF5 then
    some ⟨octet, start, octet.toNat % 8, 3, if octet = 0xF0 then 0x90 else 0x80,
      if octet = 0xF4 then 0x8F else 0xBF⟩
  else none

/-- Reads octets from a position on, after the characters in `done`, last one first. -/
def readFrom : List UInt8 → (position : Nat) → Option Begun → (done : List Char) →
    Except Failure (List Char)
  | [], _, none, done => .ok done.reverse
  | [], position, some b, _ => .error ⟨b.octet, b.start, position, .unexpectedEnd⟩
  | octet :: rest, position, none, done =>
      if octet < 0x80 then
        readFrom rest (position + 1) none (Char.ofNat octet.toNat :: done)
      else
        match begin? octet position with
        | some b => readFrom rest (position + 1) (some b) done
        | none => .error ⟨octet, position, position + 1, .invalidStart⟩
  | octet :: rest, position, some b, done =>
      if b.low ≤ octet ∧ octet ≤ b.high then
        let bits := b.bits * 64 + octet.toNat % 64
        if b.owed = 1 then readFrom rest (position + 1) none (Char.ofNat bits :: done)
        else
          let next : Begun :=
            { b with bits := bits, owed := b.owed - 1, low := 0x80, high := 0xBF }
          readFrom rest (position + 1) (some next) done
      else .error ⟨b.octet, b.start, position, .invalidContinuation⟩

def decode (octets : List UInt8) : Except Failure (List Char) :=
  readFrom octets 0 none []

def encode (text : String) : List UInt8 :=
  text.toUTF8.toList

/-- Consecutive surrogates from `start` up to `stop` that have no octets, the first of which is
`unit`. -/
structure Unencodable where
  unit : Nat
  start : Nat
  stop : Nat
  deriving DecidableEq, Repr

def Unencodable.message (f : Unencodable) : String :=
  let place :=
    if f.stop = f.start + 1 then
      "character '" ++ String.ofList (Text.codeEscape false f.unit) ++ "' in position " ++
        toString f.start
    else "characters in position " ++ toString f.start ++ "-" ++ toString (f.stop - 1)
  "'utf-8' codec can't encode " ++ place ++ ": surrogates not allowed"

def textOctets? : CodePoint → Option (List UInt8)
  | .char c => some (encode (String.singleton c))
  | .surrogate _ => none

/-- The octets of a code point in the name of a file. -/
def nameOctets? : CodePoint → Option (List UInt8)
  | .char c => textOctets? (.char c)
  | .surrogate unit =>
      if 0xDC80 ≤ unit ∧ unit ≤ 0xDCFF then some [UInt8.ofNat (unit - 0xDC00)] else none

/-- The octets of code points from a position on. -/
def encodeFrom (octets? : CodePoint → Option (List UInt8)) (position : Nat) :
    Text → Except Unencodable (List UInt8)
  | [] => .ok []
  | p :: rest =>
      match octets? p with
      | some octets => (encodeFrom octets? (position + 1) rest).map (octets ++ ·)
      | none =>
          let run := rest.takeWhile fun q ↦ q.char?.isNone
          .error ⟨p.number, position, position + 1 + run.length⟩

def encodeText (text : Text) : Except Unencodable (List UInt8) :=
  encodeFrom textOctets? 0 text

def encodeName (name : Text) : Except Unencodable (List UInt8) :=
  encodeFrom nameOctets? 0 name

/-- Carriage returns, alone or before a line feed, become line feeds. -/
def normalizeLines : List Char → List Char
  | '\r' :: '\n' :: rest => '\n' :: normalizeLines rest
  | '\r' :: rest => '\n' :: normalizeLines rest
  | c :: rest => c :: normalizeLines rest
  | [] => []

end Utf8
end TypeDisplay
