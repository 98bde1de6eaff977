import TypeDisplay.Keyword
import TypeDisplay.Descriptor.Kind

/-!
# Display names

The pointer and array layers of a descriptor are peeled from the outside in, and the text
of the core is followed by the text of the layers, innermost layer first.  Directly nested
arrays form a run, whose rank tokens keep their outermost-first order.  A named core reads
`Ns.Outer<Args>.Inner<Args>`, and a nullable is its single argument followed by `?`.

The only failure is a malformed nullable.
-/

namespace TypeDisplay

/-- The bracket token of an array, with one comma less than the rank.  Ranks below one
have no comma either. -/
def rankToken (rank : Int) : Text :=
  .char '[' :: (List.replicate (rank - 1).toNat (.char ',') ++ [.char ']'])

/-- How a nullable can be malformed. -/
inductive NameError where
  /-- The wrapper has this many arguments over this many levels, not one on one. -/
  | arity (arguments levels : Nat)
  | nestedNullable
  /-- The wrapped type is not a value type; its plain name is shown. -/
  | notValueType (shown : Text)
  deriving DecidableEq, Repr

def NameError.message : NameError → Text
  | arity arguments levels =>
      "Nullable wrapper must have exactly one type argument, got " ++ toString arguments ++
        " across " ++ toString levels ++ " nesting level(s)"
  | nestedNullable => "Nullable wrapper cannot wrap another nullable type"
  | notValueType shown => "Nullable wrapper requires a value type, got '" ++ shown ++ "'"

namespace Descriptor

def levelText (escaping : Bool) (name : Text) (arguments : List Text) : Text :=
  if arguments.isEmpty then Identifier.display escaping name
  else Identifier.display escaping name ++ "<" ++ (", " : Text).intercalate arguments ++ ">"

/-- The text of a named type, from its namespace and the texts of its levels. -/
def namedText (escaping : Bool) (segments levels : List Text) : Text :=
  ("." : Text).intercalate (segments.map (Identifier.display escaping) ++ levels)

mutual

/-- Writes the core of a descriptor before the text of the layers that were peeled off it:
`run` holds the rank tokens of the innermost array run so far, outermost first, and
`layers` the text of all layers outside that run. -/
def nameBefore (escaping : Bool) : Descriptor → (run layers : Text) →
    Except NameError Text
  | pointer p, run, layers => nameBefore escaping p [] ("*" ++ (run ++ layers))
  | array e rank _, run, layers => nameBefore escaping e (run ++ rankToken rank) layers
  | primitive type, run, layers => .ok (type.keyword ++ (run ++ layers))
  | void, run, layers => .ok ("void" ++ (run ++ layers))
  | parameter name, run, layers =>
      .ok (Identifier.display escaping name ++ (run ++ layers))
  | nullable u, run, layers =>
      if u.kind = .nullable then .error .nestedNullable
      else if u.isValueType then
        (nameBefore escaping u [] []).map fun text ↦ text ++ "?" ++ (run ++ layers)
      else (nameBefore false u [] []).bind fun shown ↦ .error (.notValueType shown)
  | named segments levels valueType wellKnown, run, layers =>
      if isNullableWrapper (named segments levels valueType wellKnown) then
        match levels with
        | [⟨_, [u]⟩] =>
            if u.kind = .nullable then .error .nestedNullable
            else if u.isValueType then
              (nameBefore escaping u [] []).map fun text ↦ text ++ "?" ++ (run ++ layers)
            else (nameBefore false u [] []).bind fun shown ↦ .error (.notValueType shown)
        | _ => .error (.arity (argumentsOf levels).length levels.length)
      else
        (levelNames escaping levels).map fun texts ↦
          namedText escaping segments texts ++ (run ++ layers)

def levelNames (escaping : Bool) : List (Level Descriptor) → Except NameError (List Text)
  | [] => .ok []
  | ⟨name, arguments⟩ :: rest =>
      (argumentNames escaping arguments).bind fun texts ↦
        (levelNames escaping rest).map fun others ↦
          levelText escaping name texts :: others

def argumentNames (escaping : Bool) : List Descriptor → Except NameError (List Text)
  | [] => .ok []
  | d :: rest =>
      (nameBefore escaping d [] []).bind fun text ↦
        (argumentNames escaping rest).map fun others ↦ text :: others

end

/-- The display name of a descriptor; keywords used as identifiers are marked when
`escaping` is on. -/
def displayName (d : Descriptor) (escaping : Bool := true) : Except NameError Text :=
  nameBefore escaping d [] []

end Descriptor
end TypeDisplay
