import TypeDisplay.Text.CodePoint

/-!
# Keywords of the display syntax

Reserved keywords can never stand as a bare identifier.  Contextual keywords have a
meaning in some positions only; both are marked, so that a name reads the same wherever
it is pasted.  The two tables are disjoint and each is in code point order.
-/

namespace TypeDisplay
namespace Keyword

def reserved : List String :=
  [ "__arglist", "__makeref", "__reftype", "__refvalue", "abstract", "as", "base", "bool",
    "break", "byte", "case", "catch", "char", "checked", "class", "const", "continue",
    "decimal", "default", "delegate", "do", "double", "else", "enum", "event", "explicit",
    "extern", "false", "finally", "fixed", "float", "for", "foreach", "goto", "if",
    "implicit", "in", "int", "interface", "internal", "is", "lock", "long", "namespace",
    "new", "null", "object", "operator", "out", "override", "params", "private",
    "protected", "public", "readonly", "ref", "return", "sbyte", "sealed", "short",
    "sizeof", "stackalloc", "static", "string", "struct", "switch", "this", "throw", "true",
    "try", "typeof", "uint", "ulong", "unchecked", "unsafe", "ushort", "using", "virtual",
    "void", "volatile", "while" ]

def contextual : List String :=
  [ "add", "alias", "ascending", "assembly", "async", "await", "by", "descending", "equals",
    "field", "from", "get", "global", "group", "into", "join", "let", "method", "module",
    "nameof", "on", "orderby", "param", "partial", "property", "remove", "select", "set",
    "type", "typevar", "when", "where", "yield" ]

/-- Every identifier that is marked. -/
def marked : List String :=
  reserved ++ contextual

end Keyword

namespace Identifier

def isKeyword (identifier : Text) : Bool :=
  identifier.string?.any Keyword.marked.contains

/-- Stands in front of a keyword that is used as an identifier. -/
def marker : CodePoint := .char '@'

/-- The identifier as it is displayed: a keyword is marked when `escaping` is on, and every
other identifier is shown as it is. -/
def display (escaping : Bool) (identifier : Text) : Text :=
  if escaping && isKeyword identifier then marker :: identifier else identifier

@[simp] theorem display_false (identifier : Text) :
    display false identifier = identifier := by
  simp [display]

theorem display_of_not_keyword {identifier : Text} (escaping : Bool)
    (h : isKeyword identifier = false) : display escaping identifier = identifier := by
  simp [display, h]

end Identifier
end TypeDisplay
