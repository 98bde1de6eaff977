import TypeDisplay.Document
import TypeDisplay.Descriptor

/-!
# The document of a descriptor

Every descriptor has one complete document: each field of its variant is present, with the
values that a reader would have filled in.
-/

namespace TypeDisplay
namespace Descriptor

open Document (text)

def flagDocument : Option Bool → Document
  | none => .null
  | some b => .bool b

def wellKnownDocument : Option WellKnown → Document
  | none => .null
  | some wellKnown => text wellKnown.identity

def record (fields : List (String × Document)) : Document :=
  .mapping (fields.map fun field ↦ (.text field.1, field.2))

mutual

def toDocument : Descriptor → Document
  | primitive type => record [("kind", text "primitive"), ("primitive", text type.keyword)]
  | void => record [("kind", text "void")]
  | parameter name => record [("kind", text "parameter"), ("name", text name)]
  | named segments levels valueType wellKnown =>
      record
        [("kind", text "named"), ("namespace", .list (segments.map text)),
          ("levels", .list (levelDocuments levels)), ("value_type", flagDocument valueType),
          ("well_known", wellKnownDocument wellKnown)]
  | array element rank multiDimensional =>
      record
        [("kind", text "array"), ("element_type", toDocument element), ("rank", .int rank),
          ("multi_dimensional", .bool multiDimensional)]
  | pointer pointee => record [("kind", text "pointer"), ("pointee", toDocument pointee)]
  | nullable underlying =>
      record [("kind", text "nullable"), ("underlying", toDocument underlying)]

def levelDocuments : List (Level Descriptor) → List Document
  | [] => []
  | ⟨name, arguments⟩ :: rest =>
      record [("name", text name), ("type_arguments", .list (argumentDocuments arguments))] ::
        levelDocuments rest

def argumentDocuments : List Descriptor → List Document
  | [] => []
  | d :: rest => toDocument d :: argumentDocuments rest

end

end Descriptor
end TypeDisplay
