import TypeDisplay.Calendar
import TypeDisplay.Text.Quoted

/-!
# Failures of reading YAML

A text is malformed when its characters, tokens, nodes or tags do not form one document.
Apart from that, a scalar may have a tag whose value its text does not describe.
-/

namespace TypeDisplay
namespace Yaml

/-- Where a text stops being one document. -/
inductive Malformed where
  /-- A character that no text may hold. -/
  | character
  /-- Characters that form no token. -/
  | token
  /-- A key on one line that lacks its colon. -/
  | key
  /-- Tokens that form no node, or more than one document. -/
  | nodes
  /-- A reference without its anchor, or an anchor that is set twice. -/
  | anchor
  /-- A node whose tag is unknown or does not fit the kind of node. -/
  | tag
  /-- A mapping key that is a collection, or a merge of something that is no mapping. -/
  | entry
  /-- Text that is no base64. -/
  | octets
  deriving DecidableEq, Repr

/-- A scalar whose text is not a value of its tag. -/
inductive BadScalar where
  | calendar (error : CalendarError)
  | integer (base : Nat) (text : Text)
  | integerTooLong (digits : Nat)
  | float (text : Text)
  /-- A place of a number to the base of sixty weighs more than any float. -/
  | floatTooLarge
  | flag (word : Text)
  | emptyNumber
  | timestamp
  /-- A mapping that a text stands for where a timestamp is written. -/
  | timestampOfMapping
  /-- A mapping that stands for itself. -/
  | endlessText
  /-- An escape for a code point above the last one, by its number. -/
  | codePoint (code : Nat)
  deriving DecidableEq, Repr

inductive Failure where
  | malformed (cause : Malformed)
  | badScalar (cause : BadScalar)
  deriving DecidableEq, Repr

/-- What is said of a text that is refused, behind the message about it; nothing, if that is not
known. -/
def remark (said : Option Text) : Text :=
  match said with
  | none => ""
  | some text => ": " ++ text

namespace BadScalar

/-- Numbers of escapes from here on do not fit where they are read to. -/
def codeBound : Nat := 0x80000000

def message : BadScalar → String
  | calendar error => error.message
  | integer base text =>
      "invalid literal for int() with base " ++ toString base ++ ": " ++
        String.ofList ((Text.quoted text).toList.take 200)
  | integerTooLong digits =>
      "Exceeds the limit (4300 digits) for integer string conversion: value has " ++
        toString digits ++ " digits; use sys.set_int_max_str_digits() to increase the limit"
  | float text => "could not convert string to float: " ++ Text.quoted text
  | floatTooLarge => "int too large to convert to float"
  | flag word => Text.quoted word
  | emptyNumber => "string index out of range"
  | timestamp => "'NoneType' object has no attribute 'groupdict'"
  | timestampOfMapping => "expected string or bytes-like object, got 'list'"
  | endlessText => "maximum recursion depth exceeded"
  | codePoint code =>
      if code < codeBound then "chr() arg not in range(0x110000)"
      else "Python int too large to convert to C int"

end BadScalar
end Yaml
end TypeDisplay
