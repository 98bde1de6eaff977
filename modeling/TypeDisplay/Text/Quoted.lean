import TypeDisplay.Text.CodePoint
import TypeDisplay.Text.Printable

/-!
# Quoted literals

Messages show a text between quotes.  The quote is an apostrophe unless the text holds
an apostrophe and no double quote.  Backslashes, the quote in use, unprintable characters and
surrogates are escaped, the last two by the shortest hexadecimal form that fits.
-/

namespace TypeDisplay
namespace Text

def hexDigit (upper : Bool) (n : Nat) : Char :=
  if n < 10 then Char.ofNat (48 + n)
  else Char.ofNat ((if upper then 55 else 87) + n)

/-- The last `width` hexadecimal digits of a number. -/
def hexDigits (upper : Bool) : (width : Nat) → (n : Nat) → List Char
  | 0, _ => []
  | width + 1, n => hexDigits upper width (n / 16) ++ [hexDigit upper (n % 16)]

/-- The escape of a code point: two, four or eight digits. -/
def codeEscape (upper : Bool) (n : Nat) : List Char :=
  if n < 0x100 then '\\' :: 'x' :: hexDigits upper 2 n
  else if n < 0x10000 then '\\' :: 'u' :: hexDigits upper 4 n
  else '\\' :: 'U' :: hexDigits upper 8 n

def apostrophe : Char := '\x27'

def quoteFor (cs : List Char) : Char :=
  if cs.contains apostrophe && !cs.contains '"' then '"' else apostrophe

def quotedChar (quote c : Char) : List Char :=
  if c = quote ∨ c = '\\' then ['\\', c]
  else if c = '\n' then ['\\', 'n']
  else if c = '\r' then ['\\', 'r']
  else if c = '\t' then ['\\', 't']
  else if isPrintable c then [c]
  else codeEscape false c.toNat

def quotedPoint (quote : Char) : CodePoint → List Char
  | .char c => quotedChar quote c
  | .surrogate unit => codeEscape false unit

def quoted (text : Text) : String :=
  let quote := quoteFor (text.filterMap CodePoint.char?)
  String.ofList (quote :: (text.flatMap (quotedPoint quote) ++ [quote]))

/-- Octets are quoted after a `b`, and those outside printable ASCII are escaped. -/
def quotedOctets (octets : List UInt8) : String :=
  let cs := octets.map fun octet ↦ Char.ofNat octet.toNat
  let quote := quoteFor cs
  let shown := cs.flatMap fun c ↦
    if c.toNat < 0x7f then quotedChar quote c else codeEscape false c.toNat
  String.ofList ('b' :: quote :: (shown ++ [quote]))

end Text
end TypeDisplay
