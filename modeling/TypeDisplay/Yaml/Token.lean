import TypeDisplay.Number.Decimal
import TypeDisplay.Text.Utf8
import TypeDisplay.Yaml.Token.Scalar

/-!
# Tokens of a text

A text is cut into tokens from the left.  Block collections are found by indentation, and
a simple key is only known to be one when its colon is reached: the place in front of a
possible key is remembered for every flow level, and the colon puts the key token there.
A possible key has to end on its line within 1024 characters.

A token is handed out when no key token can be put in front of it any more.  What is wrong in a
text is the last token, after those that were handed out before it was met.
-/

namespace TypeDisplay
namespace Yaml

inductive Token where
  | version (major : Nat)
  | tagDirective (handle start : String)
  | otherDirective
  | documentStart | documentEnd | streamEnd
  | sequenceStart | mappingStart | blockEnd
  | flowSequenceStart | flowSequenceEnd | flowMappingStart | flowMappingEnd
  | entry | flowEntry | key | value
  | reference (anchor : String)
  | anchor (anchor : String)
  | tag (handle : Option String) (suffix : String)
  | scalar (text : Text) (isPlain : Bool)
  /-- The place where the text cannot be cut any further. -/
  | fault (failure : Failure)
  deriving DecidableEq, Repr

structure PossibleKey where
  position : Nat
  required : Bool
  index : Nat
  line : Nat
  column : Nat

/-- How far a text was cut: the tokens so far with the last one first and their number, the
depth of flow collections, the columns of the open block collections with the innermost
first, whether a simple key may start here, and the possible keys by flow level. -/
structure Lexer where
  cursor : Cursor
  tokens : List Token
  count : Nat
  flow : Nat
  indents : List Int
  keyAllowed : Bool
  keys : List (Nat × PossibleKey)

namespace Lexer

abbrev Result := Except Failure Lexer

def start (text : List Char) : Lexer :=
  ⟨.start text, [], 0, 0, [], true, []⟩

/-- The column of the innermost open block collection, and -1 outside of all. -/
def indent (s : Lexer) : Int :=
  s.indents.headD (-1)

def push (s : Lexer) (token : Token) : Lexer :=
  { s with tokens := token :: s.tokens, count := s.count + 1 }

/-- Puts a token in front of the token that was read at a position. -/
def insertAt (s : Lexer) (position : Nat) (token : Token) : Lexer :=
  { s with
    tokens := s.tokens.insertIdx (s.count - position) token
    count := s.count + 1 }

def inBlock (s : Lexer) : Bool := s.flow == 0

/-- A possible key is out of reach on another line or more than 1024 characters later. -/
def isStale (s : Lexer) (k : PossibleKey) : Bool :=
  k.line != s.cursor.line || s.cursor.index - k.index > 1024

/-- Drops keys that are out of reach.  A required key must not get lost. -/
def dropStaleKeys (s : Lexer) : Result :=
  if s.keys.any fun k ↦ s.isStale k.2 && k.2.required then .error (.malformed .key)
  else .ok { s with keys := s.keys.filter fun k ↦ !s.isStale k.2 }

def currentKey? (s : Lexer) : Option PossibleKey :=
  s.keys.lookup s.flow

def forgetKey (s : Lexer) : Lexer :=
  { s with keys := s.keys.filter fun k ↦ k.1 != s.flow }

/-- Gives up the possible key of this flow level. -/
def dropKey (s : Lexer) : Result :=
  match s.currentKey? with
  | some k => if k.required then .error (.malformed .key) else .ok s.forgetKey
  | none => .ok s

/-- Remembers that a key may start here.  At the indentation of a block mapping nothing but
a key can. -/
def saveKey (s : Lexer) : Result :=
  if s.keyAllowed then do
    let required := s.inBlock && s.indent == s.cursor.column
    let s ← s.dropKey
    let c := s.cursor
    return { s with keys :=
      (s.flow, ⟨s.count, required, c.index, c.line, c.column⟩) :: s.keys }
  else .ok s

/-- Ends the block collections that are indented further than a column. -/
def unwind (s : Lexer) (column : Int) : Lexer :=
  if s.inBlock then
    let closed := s.indents.takeWhile fun i ↦ decide (column < i)
    { s with
      indents := s.indents.drop closed.length
      tokens := List.replicate closed.length Token.blockEnd ++ s.tokens
      count := s.count + closed.length }
  else s

/-- Opens a block collection at a column, unless one is open there. -/
def openAt? (s : Lexer) (column : Nat) : Option Lexer :=
  if s.indent < column then some { s with indents := (column : Int) :: s.indents } else none

def openBlock (s : Lexer) (token : Token) : Lexer :=
  match s.openAt? s.cursor.column with
  | some s => s.push token
  | none => s

def allowKey (s : Lexer) (allowed : Bool) : Lexer :=
  { s with keyAllowed := allowed }

/-- Passes over characters of an indicator and adds its token. -/
def take (s : Lexer) (length : Nat) (token : Token) : Lexer :=
  { s.push token with cursor := s.cursor.drop length }

/-! ### Blanks and comments -/

/-- Passes over blanks, comments and breaks.  A break outside flow collections allows a
key. -/
def skipBlanksFrom : (fuel : Nat) → Lexer → Lexer
  | 0, s => s
  | fuel + 1, s =>
      let c := s.cursor.skipSpaces.skipComment
      match c.lineBreak? with
      | some (_, c) =>
          skipBlanksFrom fuel { s with cursor := c, keyAllowed := s.keyAllowed || s.inBlock }
      | none => { s with cursor := c }

def skipBlanks (s : Lexer) : Lexer :=
  let c := s.cursor
  let c := if c.index = 0 ∧ c.rest.head? = some byteOrderMark then c.drop 1 else c
  skipBlanksFrom c.fuel { s with cursor := c }

/-! ### Names, tags and directives -/

/-- A name of word characters; at least one. -/
def word (c : Cursor) : Lexeme :=
  match c.span isWordChar with
  | ([], _) => .error (.malformed .token)
  | read => .ok read

def anchorName (c : Cursor) : Except Failure (String × Cursor) := do
  let (name, c) ← word c
  let ends := endsWord c.rest ||
    match c.rest with
    | ch :: _ => "?:,]\x7d%@`".toList.contains ch
    | [] => true
  if ends then return (String.ofList name, c) else throw (.malformed .token)

/-- The octets of consecutive percent escapes. -/
def percentOctets : (fuel : Nat) → Cursor → Except Failure (List UInt8 × Cursor)
  | 0, c => .ok ([], c)
  | fuel + 1, c =>
      match c.rest with
      | '%' :: rest =>
          match hexNumber? 2 rest with
          | none => .error (.malformed .token)
          | some n => do
              let (more, c) ← percentOctets fuel (c.drop 3)
              return (UInt8.ofNat n :: more, c)
      | _ => .ok ([], c)

/-- Reads onto `done`, which has the last character first, as far as a tag goes. -/
def uriFrom : (fuel : Nat) → Cursor → (done : List Char) → Lexeme
  | 0, c, done => .ok (done.reverse, c)
  | fuel + 1, c, done =>
      match c.rest with
      | '%' :: _ => do
          let (octets, c) ← percentOctets c.fuel c
          match Utf8.decode octets with
          | .ok cs => uriFrom fuel c (cs.reverse ++ done)
          | .error _ => throw (.malformed .token)
      | ch :: _ =>
          if isUriChar ch then uriFrom fuel (c.drop 1) (ch :: done) else .ok (done.reverse, c)
      | [] => .ok (done.reverse, c)

/-- A tag without its handle; at least one character or escape. -/
def uri (c : Cursor) : Lexeme :=
  match c.rest with
  | ch :: _ =>
      if isUriChar ch then uriFrom c.fuel c [] else .error (.malformed .token)
  | [] => .error (.malformed .token)

/-- A tag handle: one or two exclamation marks, the two with word characters between. -/
def handle (c : Cursor) : Lexeme :=
  match c.rest with
  | '!' :: ' ' :: _ => .ok (['!'], c.drop 1)
  | '!' :: _ =>
      let (name, after) := (c.drop 1).span isWordChar
      match after.rest with
      | '!' :: _ => .ok ('!' :: name ++ ['!'], after.drop 1)
      | _ => .error (.malformed .token)
  | _ => .error (.malformed .token)

/-- Whether an exclamation mark comes before the next blank. -/
def hasHandle (cs : List Char) : Bool :=
  (cs.takeWhile fun ch ↦ ch != ' ' && !isBreak ch).contains '!'

def tag (c : Cursor) : Except Failure (Token × Cursor) := do
  let (handle, suffix, c) ←
    match c.rest with
    | '!' :: '<' :: _ => do
        let (suffix, c) ← uri (c.drop 2)
        match c.rest with
        | '>' :: _ => pure (none, suffix, c.drop 1)
        | _ => throw (.malformed .token)
    | _ :: rest =>
        if endsWord rest then pure (none, ['!'], c.drop 1)
        else if hasHandle rest then do
          let (handle, c) ← handle c
          let (suffix, c) ← uri c
          pure (some handle, suffix, c)
        else do
          let (suffix, c) ← uri (c.drop 1)
          pure (some ['!'], suffix, c)
    | [] => throw (.malformed .token)
  if endsSpaced c.rest then
    return (.tag (handle.map String.ofList) (String.ofList suffix), c)
  else throw (.malformed .token)

def number (c : Cursor) : Except Failure (Nat × Cursor) :=
  match c.span Char.isDigit with
  | ([], _) => .error (.malformed .token)
  | (ds, c) =>
      if Decimal.digitLimit < ds.length then .error (.badScalar (.integerTooLong ds.length))
      else .ok (Json.valueOf ds, c)

def versionDirective (c : Cursor) : Except Failure (Token × Cursor) := do
  let (major, c) ← number c.skipSpaces
  match c.rest with
  | '.' :: _ =>
      let (_, c) ← number (c.drop 1)
      if endsSpaced c.rest then return (.version major, c) else throw (.malformed .token)
  | _ => throw (.malformed .token)

def tagDirective (c : Cursor) : Except Failure (Token × Cursor) := do
  let (handle, c) ← handle c.skipSpaces
  match c.rest with
  | ' ' :: _ =>
      let (start, c) ← uri c.skipSpaces
      if endsSpaced c.rest then
        return (.tagDirective (String.ofList handle) (String.ofList start), c)
      else throw (.malformed .token)
  | _ => throw (.malformed .token)

/-- A directive after its percent sign, up to the end of its line. -/
def directive (c : Cursor) : Except Failure (Token × Cursor) := do
  let (name, c) ← word c
  if !endsSpaced c.rest then throw (.malformed .token)
  let (token, c) ←
    if name == "YAML".toList then versionDirective c
    else if name == "TAG".toList then tagDirective c
    else pure (.otherDirective, c.skipWhile fun ch ↦ !isBreak ch)
  return (token, ← c.skipIgnoredLine)

/-! ### Tokens -/

/-- Ends everything that is open before a document boundary or a directive. -/
def closeAll (s : Lexer) : Result := do
  let s ← (s.unwind (-1)).dropKey
  return s.allowKey false

def documentMark (s : Lexer) (token : Token) : Result := do
  let s ← s.closeAll
  return s.take 3 token

def flowStart (s : Lexer) (token : Token) : Result := do
  let s ← s.saveKey
  return ({ s with flow := s.flow + 1 }.allowKey true).take 1 token

def flowEnd (s : Lexer) (token : Token) : Result := do
  let s ← s.dropKey
  return ({ s with flow := s.flow - 1 }.allowKey false).take 1 token

def flowEntry (s : Lexer) : Result := do
  let s ← s.dropKey
  return (s.allowKey true).take 1 .flowEntry

def blockEntry (s : Lexer) : Result := do
  if s.inBlock && !s.keyAllowed then throw (.malformed .token)
  let s := if s.inBlock then s.openBlock .sequenceStart else s
  let s ← s.dropKey
  return (s.allowKey true).take 1 .entry

def complexKey (s : Lexer) : Result := do
  if s.inBlock && !s.keyAllowed then throw (.malformed .token)
  let s := if s.inBlock then s.openBlock .mappingStart else s
  let s ← s.dropKey
  return (s.allowKey s.inBlock).take 1 .key

/-- A colon: it ends a simple key, which may open a block mapping, or a complex one. -/
def colon (s : Lexer) : Result :=
  match s.currentKey? with
  | some k =>
      let s := s.forgetKey.insertAt k.position .key
      let opened := if s.inBlock then s.openAt? k.column else none
      let s :=
        match opened with
        | some s => s.insertAt k.position .mappingStart
        | none => s
      .ok ((s.allowKey false).take 1 .value)
  | none => do
      if s.inBlock && !s.keyAllowed then throw (.malformed .token)
      let s := if s.inBlock then s.openBlock .mappingStart else s
      let s ← (s.allowKey s.inBlock).dropKey
      return s.take 1 .value

/-- A token that may be a simple key and after which none may start. -/
def withKey (s : Lexer) (read : Cursor → Except Failure (Token × Cursor)) : Result := do
  let s ← s.saveKey
  let (token, c) ← read s.cursor
  return { (s.allowKey false).push token with cursor := c }

def apostropheScalar (c : Cursor) : Except Failure (Token × Cursor) :=
  (apostropheQuoted (c.drop 1)).map fun (text, c) ↦ (.scalar (.ofChars text) false, c)

def doubleScalar (c : Cursor) : Except Failure (Token × Cursor) :=
  (doubleQuoted (c.drop 1)).map fun (text, c) ↦ (.scalar text false, c)

def blockScalar (s : Lexer) (folded : Bool) : Result := do
  let s ← (s.allowKey true).dropKey
  let (text, c) ← block folded s.indent (s.cursor.drop 1)
  return { s.push (.scalar (.ofChars text) false) with cursor := c }

def plainScalar (s : Lexer) : Result := do
  let s ← s.saveKey
  let (text, c, ended) := plain (!s.inBlock) s.indent s.cursor
  return { (s.allowKey ended).push (.scalar (.ofChars text) true) with cursor := c }

/-- Characters that cannot start a plain scalar. -/
def isIndicator (c : Char) : Bool :=
  "-?:,[]\x7b\x7d#&*!|>\x27\"%@`".toList.contains c

def startsPlain (s : Lexer) (c : Char) (rest : List Char) : Bool :=
  !(isSpace c || isBreak c || isIndicator c) ||
    (!endsWord rest && (c == '-' || (s.inBlock && (c == '?' || c == ':'))))

def token (s : Lexer) : Result :=
  match s.cursor.rest with
  | [] => .error (.malformed .token)
  | ch :: rest =>
      let atMargin := s.cursor.column == 0
      if ch == '%' && atMargin then do
        let s ← s.closeAll
        let (token, c) ← directive (s.cursor.drop 1)
        return { s.push token with cursor := c }
      else if atMargin && s.cursor.atSeparator then
        s.documentMark (if ch == '-' then .documentStart else .documentEnd)
      else
        match ch with
        | '[' => s.flowStart .flowSequenceStart
        | '\x7b' => s.flowStart .flowMappingStart
        | ']' => s.flowEnd .flowSequenceEnd
        | '\x7d' => s.flowEnd .flowMappingEnd
        | ',' => s.flowEntry
        | '*' => s.withKey fun c ↦
            (anchorName (c.drop 1)).map fun (name, c) ↦ (.reference name, c)
        | '&' => s.withKey fun c ↦
            (anchorName (c.drop 1)).map fun (name, c) ↦ (.anchor name, c)
        | '!' => s.withKey tag
        | '\x27' => s.withKey apostropheScalar
        | '"' => s.withKey doubleScalar
        | _ =>
            if ch == '-' && endsWord rest then s.blockEntry
            else if ch == '?' && (!s.inBlock || endsWord rest) then s.complexKey
            else if ch == ':' && (!s.inBlock || endsWord rest) then s.colon
            else if ch == '|' && s.inBlock then s.blockScalar false
            else if ch == '>' && s.inBlock then s.blockScalar true
            else if s.startsPlain ch rest then s.plainScalar
            else .error (.malformed .token)

/-- Ends the text.  No key can begin any more. -/
def finish (s : Lexer) : Result := do
  let s ← s.closeAll
  return { s.push .streamEnd with keys := [] }

/-- Cuts off what comes next: a token, or more of them where collections end. -/
def step (s : Lexer) : Result := do
  let s ← s.skipBlanks.dropStaleKeys
  let s := s.unwind s.cursor.column
  if s.cursor.rest.isEmpty then s.finish else s.token

def isFinished (s : Lexer) : Bool := s.tokens.head? == some .streamEnd

/-- The number of tokens before the first one that a key token may be put in front of. -/
def ready (s : Lexer) : Nat :=
  s.keys.foldl (fun n k ↦ min n k.2.position) s.count

/-- The first tokens, and what is wrong after them. -/
def upTo (s : Lexer) (handedOut : Nat) (failure : Failure) : List Token :=
  s.tokens.reverse.take handedOut ++ [.fault failure]

/-- Reads tokens to the end of the text, or up to what is wrong in it.  The first tokens have
been handed out already. -/
def run : (fuel : Nat) → Lexer → (handedOut : Nat) → List Token
  | 0, s, handedOut => s.upTo handedOut (.malformed .token)
  | fuel + 1, s, handedOut =>
      match s.step with
      | .error failure => s.upTo handedOut failure
      | .ok s =>
          if s.isFinished then s.tokens.reverse
          else
            match s.dropStaleKeys with
            | .error failure => s.upTo handedOut failure
            | .ok s => run fuel s s.ready

end Lexer

/-- The characters of a text that may hold nothing else. -/
def admitted? (text : Text) : Option (List Char) :=
  text.mapM fun p ↦ p.char?.filter isAdmissible

def tokens (text : Text) : List Token :=
  match admitted? text with
  | some cs => Lexer.run (cs.length + 1) (.start cs) 0
  | none => [.fault (.malformed .character)]

end Yaml
end TypeDisplay
