import TypeDisplay.Json
import TypeDisplay.Yaml.Cursor

/-!
# Scalars in a text

The text of a scalar in its four notations: plain, between apostrophes, between double
quotes, and in a block.  A single break inside the first three reads as a space and further
breaks read as line feeds.  Loops over lines take as fuel the number of characters that are
left, since every round passes over at least one.  What a loop has read is held with the
last character first, and turned round at its end.
-/

namespace TypeDisplay
namespace Yaml

/-- The characters of a scalar and the place after it. -/
abbrev Lexeme := Except Failure (List Char × Cursor)

/-- The same for a scalar whose text may hold surrogates. -/
abbrev TextLexeme := Except Failure (Text × Cursor)

/-- What one break and the breaks after it stand for. -/
def foldBreaks (first : Char) (more : List Char) : List Char :=
  if first ≠ '\n' then first :: more
  else if more.isEmpty then [' ']
  else more

/-! ### Plain scalars -/

/-- The end of a text or a blank after a colon, or in a flow collection an indicator. -/
def endsAfterColon (inFlow : Bool) (rest : List Char) : Bool :=
  endsWord rest ||
    match rest with
    | c :: _ => inFlow && ",[]\x7b\x7d".toList.contains c
    | [] => true

/-- The characters of a plain scalar up to the next blank or indicator. -/
def plainRun (inFlow : Bool) : List Char → List Char
  | [] => []
  | c :: rest =>
      if isSpace c || isBreak c || (c == ':' && endsAfterColon inFlow rest) ||
          (inFlow && ",?[]\x7b\x7d".toList.contains c) then []
      else c :: plainRun inFlow rest

/-- Reads breaks and spaces, and stops at a document separator: the breaks, the place after
them, and whether a separator was reached. -/
def breaksAndSpaces : (fuel : Nat) → Cursor → List Char × Cursor × Bool
  | 0, c => ([], c, false)
  | fuel + 1, c =>
      let c := c.skipSpaces
      match c.lineBreak? with
      | none => ([], c, false)
      | some (ch, c) =>
          if c.atSeparator then ([ch], c, true)
          else
            let (more, c, stopped) := breaksAndSpaces fuel c
            (ch :: more, c, stopped)

/-- The blanks between two runs of a plain scalar: their text, the place after them, and
whether a line was ended.  At a document separator there is no text. -/
def plainBlanks (c : Cursor) : List Char × Cursor × Bool :=
  let (spaces, c) := c.span (· == ' ')
  match c.lineBreak? with
  | none => (spaces, c, false)
  | some (first, c) =>
      if c.atSeparator then ([], c, true)
      else
        let (more, c, stopped) := breaksAndSpaces c.fuel c
        if stopped then ([], c, true) else (foldBreaks first more, c, true)

def startsComment : List Char → Bool
  | '#' :: _ => true
  | _ => false

/-- Reads a plain scalar run by run onto `done`, which has the last character first.  Also
says whether it ended right after a break. -/
def plainFrom (inFlow : Bool) (indent : Int) : (fuel : Nat) → Cursor → (blanks : List Char) →
    (done : List Char) → (ended : Bool) → List Char × Cursor × Bool
  | 0, c, _, done, ended => (done.reverse, c, ended)
  | fuel + 1, c, blanks, done, ended =>
      let run := if startsComment c.rest then [] else plainRun inFlow c.rest
      if run.isEmpty then (done.reverse, c, ended)
      else
        let done := run.reverse ++ (blanks.reverse ++ done)
        let (blanks, c, ended) := plainBlanks (c.skip run)
        if blanks.isEmpty || startsComment c.rest || (!inFlow && c.column < indent) then
          (done.reverse, c, ended)
        else plainFrom inFlow indent fuel c blanks done ended

/-- A plain scalar inside a collection that is indented by `indent`. -/
def plain (inFlow : Bool) (indent : Int) (c : Cursor) : List Char × Cursor × Bool :=
  plainFrom inFlow (indent + 1) c.fuel c [] [] false

/-! ### Quoted scalars -/

/-- Reads breaks and the blanks around them inside quotes. -/
def quotedBreaks : (fuel : Nat) → Cursor → Except Failure (List Char × Cursor)
  | 0, _ => .error (.malformed .token)
  | fuel + 1, c =>
      if c.atSeparator then .error (.malformed .token)
      else
        let c := c.skipWhile isSpace
        match c.lineBreak? with
        | none => .ok ([], c)
        | some (ch, c) => do
            let (more, c) ← quotedBreaks fuel c
            return (ch :: more, c)

/-- Reads blanks inside quotes, which may not reach the end of the text. -/
def quotedBlanks (c : Cursor) : Lexeme := do
  let (blanks, c) := c.span isSpace
  if c.rest.isEmpty then throw (.malformed .token)
  match c.lineBreak? with
  | none => return (blanks, c)
  | some (first, c) => do
      let (more, c) ← quotedBreaks c.fuel c
      return (foldBreaks first more, c)

/-- Reads onto `done`, which has the last character first, up to the closing apostrophe. -/
def apostropheFrom : (fuel : Nat) → Cursor → (done : List Char) → Lexeme
  | 0, _, _ => .error (.malformed .token)
  | fuel + 1, c, done =>
      match c.rest with
      | '\x27' :: '\x27' :: _ => apostropheFrom fuel (c.drop 2) ('\x27' :: done)
      | '\x27' :: _ => .ok (done.reverse, c.drop 1)
      | [] => .error (.malformed .token)
      | ch :: _ =>
          if isSpace ch || isBreak ch then do
            let (blanks, c) ← quotedBlanks c
            apostropheFrom fuel c (blanks.reverse ++ done)
          else
            let (run, c) := c.span fun ch ↦ ch != '\x27' && !isSpace ch && !isBreak ch
            apostropheFrom fuel c (run.reverse ++ done)

/-- A scalar between apostrophes, after the first one.  An apostrophe is written twice. -/
def apostropheQuoted (c : Cursor) : Lexeme :=
  apostropheFrom c.fuel c []

/-- The characters that one letter after a backslash stands for. -/
def namedEscape? : Char → Option Char
  | '0' => some '\x00'
  | 'a' => some '\x07'
  | 'b' => some '\x08'
  | 't' | '\t' => some '\t'
  | 'n' => some '\n'
  | 'v' => some '\x0b'
  | 'f' => some '\x0c'
  | 'r' => some '\r'
  | 'e' => some '\x1b'
  | ' ' => some ' '
  | '"' => some '"'
  | '\\' => some '\\'
  | '/' => some '/'
  | 'N' => some '\u0085'
  | '_' => some '\u00a0'
  | 'L' => some '\u2028'
  | 'P' => some '\u2029'
  | _ => none

/-- How many hexadecimal digits follow a letter after a backslash. -/
def escapeWidth? : Char → Option Nat
  | 'x' => some 2
  | 'u' => some 4
  | 'U' => some 8
  | _ => none

/-- The value of exactly `width` hexadecimal digits at the front. -/
def hexNumber? (width : Nat) (cs : List Char) : Option Nat :=
  let ds := cs.take width
  if ds.length = width then
    ds.foldlM (fun n c ↦ (Json.hexValue? c).map (n * 16 + ·)) 0
  else none

def escape (c : Cursor) : TextLexeme :=
  match c.rest with
  | [] => .error (.malformed .token)
  | ch :: rest =>
      match namedEscape? ch, escapeWidth? ch with
      | some named, _ => .ok ([.char named], c.drop 1)
      | none, some width =>
          match hexNumber? width rest with
          | none => .error (.malformed .token)
          | some code =>
              if 0x10FFFF < code then .error (.badScalar (.codePoint code))
              else .ok ([.ofNumber code], c.drop (1 + width))
      | none, none =>
          match c.lineBreak? with
          | some (_, c) => (quotedBreaks c.fuel c).map fun (breaks, c) ↦ (.ofChars breaks, c)
          | none => .error (.malformed .token)

/-- Reads onto `done`, which has the last code point first, up to the closing quote. -/
def doubleFrom : (fuel : Nat) → Cursor → (done : Text) → TextLexeme
  | 0, _, _ => .error (.malformed .token)
  | fuel + 1, c, done =>
      match c.rest with
      | '"' :: _ => .ok (done.reverse, c.drop 1)
      | '\\' :: _ => do
          let (escaped, c) ← escape (c.drop 1)
          doubleFrom fuel c (escaped.reverse ++ done)
      | [] => .error (.malformed .token)
      | ch :: _ =>
          if isSpace ch || isBreak ch then do
            let (blanks, c) ← quotedBlanks c
            doubleFrom fuel c (Text.ofChars blanks.reverse ++ done)
          else
            let (run, c) :=
              c.span fun ch ↦ ch != '"' && ch != '\\' && !isSpace ch && !isBreak ch
            doubleFrom fuel c (Text.ofChars run.reverse ++ done)

/-- A scalar between double quotes, after the first one. -/
def doubleQuoted (c : Cursor) : TextLexeme :=
  doubleFrom c.fuel c []

/-! ### Block scalars -/

/-- What becomes of the breaks at the end of a block. -/
inductive Chomping where
  | clip | strip | keep
  deriving DecidableEq, Repr

def chomping? : Char → Option Chomping
  | '+' => some .keep
  | '-' => some .strip
  | _ => none

/-- An indentation indicator is a digit and not zero. -/
def increment? (ch : Char) : Option (Except Failure Nat) :=
  if ch.isDigit then
    some (if ch = '0' then .error (.malformed .token) else .ok (ch.toNat - 48))
  else none

def blockHeader (c : Cursor) : Except Failure (Chomping × Option Nat × Cursor) := do
  let next : Cursor → Option Char := fun c ↦ c.rest.head?
  let (chomping, increment, c) ←
    match next c with
    | none => pure (Chomping.clip, none, c)
    | some ch =>
        match chomping? ch, increment? ch with
        | some chomping, _ =>
            let c := c.drop 1
            match (next c).bind increment? with
            | some increment => pure (chomping, some (← increment), c.drop 1)
            | none => pure (chomping, none, c)
        | none, some increment => do
            let increment ← increment
            let c := c.drop 1
            match (next c).bind chomping? with
            | some chomping => pure (chomping, some increment, c.drop 1)
            | none => pure (Chomping.clip, some increment, c)
        | none, none => pure (Chomping.clip, none, c)
  if endsSpaced c.rest then return (chomping, increment, c)
  else throw (.malformed .token)

/-- Reads blank lines before a block: their breaks, the widest column of spaces, and the
place after them. -/
def blockStart : (fuel : Nat) → Cursor → (widest : Nat) → List Char × Nat × Cursor
  | 0, c, widest => ([], widest, c)
  | fuel + 1, c, widest =>
      match c.rest with
      | ' ' :: _ =>
          let c := c.skipSpaces
          blockStart fuel c (max widest c.column)
      | _ =>
          match c.lineBreak? with
          | some (ch, c) =>
              let (more, widest, c) := blockStart fuel c widest
              (ch :: more, widest, c)
          | none => ([], widest, c)

def indentTo (indent : Nat) (c : Cursor) : Cursor :=
  c.drop ((c.rest.takeWhile (· == ' ')).take (indent - c.column)).length

def blockBreaks (indent : Nat) : (fuel : Nat) → Cursor → List Char × Cursor
  | 0, c => ([], c)
  | fuel + 1, c =>
      let c := indentTo indent c
      match c.lineBreak? with
      | some (ch, c) =>
          let (more, c) := blockBreaks indent fuel c
          (ch :: more, c)
      | none => ([], c)

def startsBlank : List Char → Bool
  | c :: _ => isSpace c
  | [] => false

/-- Reads the lines of a block; `breaks` stand before the next line and `last` is the break
that ended the line before.  What is read goes onto `done`, which has the last character
first.  Ends with the text, the last break and the breaks after it. -/
def blockLines (folded : Bool) (indent : Nat) : (fuel : Nat) → Cursor → (breaks : List Char) →
    (last : List Char) → (done : List Char) → List Char × List Char × List Char × Cursor
  | 0, c, breaks, last, done => (done.reverse, last, breaks, c)
  | fuel + 1, c, breaks, last, done =>
      if c.column = indent ∧ !c.rest.isEmpty then
        let flush := !startsBlank c.rest
        let (line, c) := c.span fun ch ↦ !isBreak ch
        let done := line.reverse ++ (breaks.reverse ++ done)
        let (last, c) :=
          match c.lineBreak? with
          | some (ch, c) => ([ch], c)
          | none => ([], c)
        let (breaks, c) := blockBreaks indent c.fuel c
        if c.column = indent ∧ !c.rest.isEmpty then
          let join :=
            if folded && last == ['\n'] && flush && !startsBlank c.rest then
              if breaks.isEmpty then [' '] else []
            else last
          blockLines folded indent fuel c breaks last (join.reverse ++ done)
        else (done.reverse, last, breaks, c)
      else (done.reverse, last, breaks, c)

/-- A block scalar after its indicator, inside a collection that is indented by `parent`. -/
def block (folded : Bool) (parent : Int) (c : Cursor) : Lexeme := do
  let (chomping, increment, c) ← blockHeader c
  let c ← c.skipIgnoredLine
  let least := max (parent + 1).toNat 1
  let (breaks, indent, c) :=
    match increment with
    | none =>
        let (breaks, widest, c) := blockStart c.fuel c 0
        (breaks, max least widest, c)
    | some increment =>
        let indent := least + increment - 1
        let (breaks, c) := blockBreaks indent c.fuel c
        (breaks, indent, c)
  let (text, last, breaks, c) :=
    blockLines folded indent c.fuel c breaks [] []
  let ending :=
    match chomping with
    | .clip => last
    | .strip => []
    | .keep => last ++ breaks
  return (text ++ ending, c)

end Yaml
end TypeDisplay
