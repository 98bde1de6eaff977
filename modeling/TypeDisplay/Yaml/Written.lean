import TypeDisplay.Document.Shown
import TypeDisplay.Yaml.Tag.Implicit

/-!
# Written documents

Documents are written in block form: one entry or item to a line, entries of a collection
below each other, and the items of a list at the column of its key.  Keys are written in
code point order; they are words that need no quotes.

A text is written plainly where it reads back as the same text, and between double quotes
where it holds anything but printable ASCII and breaks that no space touches.  All other
texts stand between apostrophes.  Surrogates are always escaped.  Long texts continue on a
further line.
-/

namespace TypeDisplay
namespace Yaml
namespace Written

/-- The column that a line may reach before its text is continued below. -/
def width : Nat := 80

def blanks (n : Nat) : List Char := List.replicate n ' '

def newLine (indent : Nat) : List Char := '\n' :: blanks indent

/-! ### Styles -/

inductive Style where
  | plain | apostrophes | doubleQuotes
  deriving DecidableEq, Repr

def isGap (c : Char) : Bool := c == ' ' || c == '\n'

/-- Whether a space and a break touch. -/
def mixesGaps : List Char → Bool
  | a :: b :: rest => (isGap a && isGap b && a != b) || mixesGaps (b :: rest)
  | _ => false

/-- Characters that only an escape can stand for. -/
def needsEscape (c : Char) : Bool :=
  c != '\n' && !(0x20 ≤ c.toNat && c.toNat ≤ 0x7E)

def endsWord : List Char → Bool
  | [] => true
  | c :: _ => isGap c

/-- A colon before a gap or a number sign after one. -/
def hasInnerIndicator (previous : Char) : List Char → Bool
  | [] => false
  | c :: rest =>
      (c == ':' && endsWord rest) || (c == '#' && isGap previous) ||
        hasInnerIndicator c rest

/-- Whether a text would not be taken for plain characters. -/
def hasIndicator (cs : List Char) : Bool :=
  match cs with
  | [] => false
  | c :: rest =>
      cs.take 3 == "---".toList || cs.take 3 == "...".toList ||
        "#,[]\x7b\x7d&*!|>\x27\"%@`".toList.contains c ||
        ("?:-".toList.contains c && endsWord rest) ||
        hasInnerIndicator c rest

def isPlain (cs : List Char) : Bool :=
  Implicit.tagOf cs == .text && !cs.contains '\n' && !hasIndicator cs &&
    !(cs.head?.any isGap) && !(cs.getLast?.any isGap)

def style (cs : List Char) : Style :=
  if cs.any needsEscape || mixesGaps cs then .doubleQuotes
  else if isPlain cs then .plain
  else .apostrophes

/-! ### Plain text and text between apostrophes -/

/-- Spaces or breaks that were passed and are not written yet. -/
inductive Gap where
  | spaces (count : Nat)
  | breaks (count : Nat)
  deriving DecidableEq

def Gap.add : Gap → Char → Gap
  | .spaces n, ' ' => .spaces (n + 1)
  | .breaks n, '\n' => .breaks (n + 1)
  | _, '\n' => .breaks 1
  | _, _ => .spaces 1

/-- Writes a gap at a column, and gives the column after it.  One space inside a text may
become a new line, and breaks are written once more than they are meant. -/
def writeGap (indent column : Nat) (isInner : Bool) : Gap → List Char × Nat
  | .spaces n =>
      if n = 1 ∧ isInner ∧ width < column then (newLine indent, indent)
      else (blanks n, column + n)
  | .breaks n =>
      if n = 0 then ([], column) else (List.replicate n '\n' ++ newLine indent, indent)

/-- How a character is written in a style without escapes. -/
def shownIn (style : Style) (c : Char) : List Char :=
  if style = .apostrophes ∧ c = '\x27' then [c, c] else [c]

/-- Writes characters after a gap; `isInner` says that characters came before the gap. -/
def foldFrom (style : Style) (indent : Nat) : (column : Nat) → (isInner : Bool) → Gap →
    List Char → List Char
  | column, _, gap, [] => (writeGap indent column false gap).1
  | column, isInner, gap, c :: rest =>
      if isGap c then foldFrom style indent column isInner (gap.add c) rest
      else
        let (written, column) := writeGap indent column isInner gap
        let shown := shownIn style c
        let column := column + shown.length
        written ++ shown ++ foldFrom style indent column true (.spaces 0) rest

/-! ### Text between double quotes -/

def charEscape (c : Char) : List Char :=
  match c with
  | '\x00' => ['\\', '0']
  | '\x07' => ['\\', 'a']
  | '\x08' => ['\\', 'b']
  | '\t' => ['\\', 't']
  | '\n' => ['\\', 'n']
  | '\x0b' => ['\\', 'v']
  | '\x0c' => ['\\', 'f']
  | '\r' => ['\\', 'r']
  | '\x1b' => ['\\', 'e']
  | '"' => ['\\', '"']
  | '\\' => ['\\', '\\']
  | '\u0085' => ['\\', 'N']
  | '\u00a0' => ['\\', '_']
  | '\u2028' => ['\\', 'L']
  | '\u2029' => ['\\', 'P']
  | c => Text.codeEscape true c.toNat

/-- The escape of a code point, if it is not written as it is. -/
def escape? : CodePoint → Option (List Char)
  | .surrogate unit => some (Text.codeEscape true unit)
  | .char c =>
      if c == '"' || c == '\\' || c == '\n' || needsEscape c then some (charEscape c) else none

/-- Continues on a new line, where a first space is marked, and gives the column there. -/
def continueLine (indent : Nat) (next : Text) : List Char × Nat :=
  if next.head? = some (.char ' ') then ('\\' :: newLine indent ++ ['\\'], indent + 1)
  else ('\\' :: newLine indent, indent)

/-- Writes a text between double quotes.  A line may end before a space, after an escape, and
before the character after an escape, but not at the ends of the text. -/
def escapeFrom (indent : Nat) : (column : Nat) → (isFirst afterEscape : Bool) → Text → List Char
  | _, _, _, [] => []
  | column, isFirst, afterEscape, p :: rest =>
      let mayEnd := !isFirst && !rest.isEmpty
      match escape? p with
      | some shown =>
          let column := column + shown.length
          let (ending, column) :=
            if mayEnd ∧ width < column - 1 then continueLine indent rest else ([], column)
          shown ++ ending ++ escapeFrom indent column false true rest
      | none =>
          let (ending, column) :=
            if mayEnd ∧ (p = .char ' ' ∨ afterEscape) ∧ width < column then
              continueLine indent (p :: rest)
            else ([], column)
          ending ++ p.char?.toList ++ escapeFrom indent (column + 1) false false rest

/-! ### Documents -/

def doubleQuoted (indent column : Nat) (t : Text) : List Char :=
  '"' :: escapeFrom indent (column + 1) true false t ++ ['"']

/-- A text at a column, which continues at an indentation. -/
def text (indent column : Nat) (t : Text) : List Char :=
  match t.chars? with
  | none => doubleQuoted indent column t
  | some cs =>
      match style cs with
      | .plain => foldFrom .plain indent column false (.spaces 0) cs
      | .apostrophes =>
          '\x27' :: foldFrom .apostrophes indent (column + 1) false (.spaces 0) cs ++ ['\x27']
      | .doubleQuotes => doubleQuoted indent column t

def scalar (indent column : Nat) : Scalar → List Char
  | .null => "null".toList
  | .bool true => "true".toList
  | .bool false => "false".toList
  | .text s => text indent column s
  | s => s.literal.toList

def keyWord (k : Scalar) : String :=
  k.string?.getD k.literal

def key (k : Scalar) : List Char := (keyWord k).toList

mutual

/-- The entries of a mapping at a column that the first line has reached already. -/
def entries (column : Nat) : List Document.Entry → List Char
  | [] => []
  | (k, d) :: rest =>
      key k ++ ':' :: valueAfter column (column + (key k).length + 1) d ++
        match rest with
        | [] => []
        | _ => blanks column ++ entries column rest

/-- What follows a key up to the end of its last line. -/
def valueAfter (indent column : Nat) : Document → List Char
  | .list (item :: items) => newLine indent ++ itemLines indent (item :: items)
  | .mapping (entry :: rest) => newLine (indent + 2) ++ entries (indent + 2) (entry :: rest)
  | .list [] => " []\n".toList
  | .mapping [] => " \x7b\x7d\n".toList
  | .scalar s => ' ' :: scalar (indent + 2) (column + 1) s ++ ['\n']
  | d => ' ' :: d.literal.toList ++ ['\n']

/-- The items of a list at a column that the first line has reached already. -/
def itemLines (column : Nat) : List Document → List Char
  | [] => []
  | item :: rest =>
      '-' :: itemAfter column item ++
        match rest with
        | [] => []
        | _ => blanks column ++ itemLines column rest

/-- What follows the mark of an item up to the end of its last line. -/
def itemAfter (indent : Nat) : Document → List Char
  | .list (item :: items) => ' ' :: itemLines (indent + 2) (item :: items)
  | .mapping (entry :: rest) => ' ' :: entries (indent + 2) (entry :: rest)
  | .list [] => " []\n".toList
  | .mapping [] => " \x7b\x7d\n".toList
  | .scalar s => ' ' :: scalar (indent + 2) (indent + 2) s ++ ['\n']
  | d => ' ' :: d.literal.toList ++ ['\n']

end

mutual

/-- The same document with the keys of every mapping in code point order. -/
def sorted : Document → Document
  | .list items => .list (sortedItems items)
  | .mapping es =>
      .mapping ((sortedEntries es).mergeSort fun a b ↦ decide (keyWord a.1 ≤ keyWord b.1))
  | d => d

def sortedItems : List Document → List Document
  | [] => []
  | d :: rest => sorted d :: sortedItems rest

def sortedEntries : List Document.Entry → List Document.Entry
  | [] => []
  | (k, d) :: rest => (k, sorted d) :: sortedEntries rest

end

def lines : Document → List Char
  | .mapping (entry :: rest) => entries 0 (entry :: rest)
  | .list (item :: items) => itemLines 0 (item :: items)
  | .scalar s => scalar 0 0 s ++ ['\n']
  | d => d.literal.toList ++ ['\n']

end Written

def write (d : Document) : List Char :=
  Written.lines (Written.sorted d)

end Yaml
end TypeDisplay
