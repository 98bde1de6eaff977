import TypeDisplay.Yaml.Failure

/-!
# Positions in a text

A cursor holds the characters that are left together with the place that was reached and
the size of the whole text.
Five characters break lines, of which a carriage return and a line feed together are one
break; three of them read as a line feed.  The byte order mark takes no column.
-/

namespace TypeDisplay
namespace Yaml

def isLineSeparator (c : Char) : Bool :=
  c == '\u2028' || c == '\u2029'

def isBreak (c : Char) : Bool :=
  c == '\n' || c == '\r' || c == '\u0085' || isLineSeparator c

def isSpace (c : Char) : Bool :=
  c == ' ' || c == '\t'

/-- The end of the text, or a blank or break in front. -/
def endsWord : List Char → Bool
  | [] => true
  | c :: _ => isSpace c || isBreak c

/-- The end of the text, or a space or break in front. -/
def endsSpaced : List Char → Bool
  | [] => true
  | c :: _ => c == ' ' || isBreak c

/-- Characters of anchors, directives and tag handles. -/
def isWordChar (c : Char) : Bool :=
  c.isAlphanum || c == '-' || c == '_'

def isUriChar (c : Char) : Bool :=
  c.isAlphanum || "-;/?:@&=+$,_.!~*\x27()[]%".toList.contains c

def isAdmissible (c : Char) : Bool :=
  let n := c.toNat
  n == 0x9 || n == 0xA || n == 0xD || (0x20 ≤ n && n ≤ 0x7E) || n == 0x85 ||
    (0xA0 ≤ n && n ≤ 0xD7FF) || (0xE000 ≤ n && n ≤ 0xFFFD) || 0x10000 ≤ n

def byteOrderMark : Char := '\uFEFF'

structure Cursor where
  size : Nat
  rest : List Char
  index : Nat
  line : Nat
  column : Nat
  deriving Repr

namespace Cursor

def start (text : List Char) : Cursor :=
  ⟨text.length, text, 0, 0, 0⟩

/-- Enough fuel for a loop that passes over a character in every round. -/
def fuel (c : Cursor) : Nat :=
  c.size - c.index + 1

/-- Passes over characters of one line that are at the front. -/
def skip (c : Cursor) (passed : List Char) : Cursor :=
  { c with
    rest := c.rest.drop passed.length
    index := c.index + passed.length
    column := c.column + passed.countP (· != byteOrderMark) }

/-- Passes over a number of characters of one line. -/
def drop (c : Cursor) (n : Nat) : Cursor :=
  c.skip (c.rest.take n)

/-- Splits off the longest run of characters of one line that satisfy a test. -/
def span (c : Cursor) (p : Char → Bool) : List Char × Cursor :=
  let run := c.rest.takeWhile p
  (run, c.skip run)

def skipWhile (c : Cursor) (p : Char → Bool) : Cursor :=
  (c.span p).2

def skipSpaces (c : Cursor) : Cursor :=
  c.skipWhile (· == ' ')

def skipComment (c : Cursor) : Cursor :=
  match c.rest with
  | '#' :: _ => c.skipWhile fun ch ↦ !isBreak ch
  | _ => c

def newLine (c : Cursor) (rest : List Char) (length : Nat) : Cursor :=
  ⟨c.size, rest, c.index + length, c.line + 1, 0⟩

def lineBreak? (c : Cursor) : Option (Char × Cursor) :=
  match c.rest with
  | '\r' :: '\n' :: rest => some ('\n', c.newLine rest 2)
  | ch :: rest =>
      if isLineSeparator ch then some (ch, c.newLine rest 1)
      else if isBreak ch then some ('\n', c.newLine rest 1)
      else none
  | [] => none

/-- Whether `---` or `...` stands here on its own. -/
def atSeparator (c : Cursor) : Bool :=
  match c.rest with
  | '-' :: '-' :: '-' :: rest | '.' :: '.' :: '.' :: rest => endsWord rest
  | _ => false

/-- Passes over the rest of a line that may hold a comment and nothing else. -/
def skipIgnoredLine (c : Cursor) : Except Failure Cursor :=
  let c := c.skipSpaces.skipComment
  match c.lineBreak? with
  | some (_, c) => .ok c
  | none => if c.rest.isEmpty then .ok c else .error (.malformed .token)

end Cursor
end Yaml
end TypeDisplay
