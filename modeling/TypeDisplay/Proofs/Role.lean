import TypeDisplay.Proofs.WithinDepth

/-!
# Roles of values

Validation reads every value in a role: as a descriptor, as the fields of a variant or of a level,
as a list of one kind, or as the plain value of a field.  The role of a value follows from where it
stands, so it is known for the parts of a value once it is known for the value.

The fields of a model are kept as data here, so that one fact about them holds for all models.
-/

namespace TypeDisplay

/-- A mapping has the fields of a variant or those of a level. -/
inductive Form where
  | variant (kind : Kind)
  | level
  deriving DecidableEq

inductive Role where
  | descriptor
  /-- A descriptor or the name of a parameter. -/
  | argument
  | fields (form : Form)
  | levels | arguments | segments
  | keyword | name | rank | flag | optionalFlag | tag
  /-- A value that is not read. -/
  | unread
  deriving DecidableEq

structure Field where
  name : String
  role : Role
  isRequired : Bool
  deriving DecidableEq

namespace Form

/-- The fields in the order in which they are read. -/
def fields : Form → List Field
  | variant .primitive => [⟨"primitive", .keyword, true⟩]
  | variant .void => []
  | variant .parameter => [⟨"name", .name, true⟩]
  | variant .named =>
      [⟨"namespace", .segments, false⟩, ⟨"levels", .levels, true⟩,
        ⟨"value_type", .optionalFlag, false⟩, ⟨"well_known", .tag, false⟩]
  | variant .array =>
      [⟨"element_type", .descriptor, true⟩, ⟨"rank", .rank, false⟩,
        ⟨"multi_dimensional", .flag, false⟩]
  | variant .pointer => [⟨"pointee", .descriptor, true⟩]
  | variant .nullable => [⟨"underlying", .descriptor, true⟩]
  | level => [⟨"name", .name, true⟩, ⟨"type_arguments", .arguments, false⟩]

/-- The keys that are declared. -/
def names : Form → List String
  | variant kind => "kind" :: Descriptor.fieldNames kind
  | level => Descriptor.levelFieldNames

def model? : Form → Option Model
  | variant kind => Model.ofKind? kind
  | level => some .level

def field? (form : Form) (name : Text) : Option Field :=
  form.fields.find? fun field ↦ name = .ofString field.name

theorem name_mem_names {form : Form} {field : Field} (isField : field ∈ form.fields) :
    field.name ∈ form.names := by
  revert field
  rcases form with (_ | _ | _ | _ | _ | _ | _) | _ <;> decide

theorem nodup_map_name (form : Form) : (form.fields.map Field.name).Nodup := by
  rcases form with (_ | _ | _ | _ | _ | _ | _) | _ <;> decide

theorem field?_name {form : Form} {field : Field} (isField : field ∈ form.fields) :
    form.field? field.name = some field := by
  revert field
  rcases form with (_ | _ | _ | _ | _ | _ | _) | _ <;> decide

theorem role_ne_fields {form : Form} {field : Field} (isField : field ∈ form.fields)
    (other : Form) : field.role ≠ .fields other := by
  revert field
  rcases form with (_ | _ | _ | _ | _ | _ | _) | _ <;> simp [fields]

end Form

namespace Role

/-- The role of the items of a list. -/
def ofItem? : Role → Option Role
  | levels => some (.fields .level)
  | arguments => some .argument
  | segments => some .name
  | _ => none

/-- What is expected where a value has the role. -/
def expected : Role → Expected
  | descriptor | argument | fields (.variant _) => .descriptor
  | fields .level => .level
  | levels => .levels
  | arguments => .arguments
  | segments => .segments
  | _ => .outline

end Role

/-- Values of fields are cut according to their roles. -/
theorem Form.under_name {form : Form} {model : Model} (isModel : form.model? = some model)
    {field : Field} (isField : field ∈ form.fields) :
    Expected.under (some model) (.text (.ofString field.name)) = field.role.expected := by
  revert field
  rcases form with (_ | _ | _ | _ | _ | _ | _) | _ <;> cases isModel <;> decide

/-- A model without models in it has plain fields only. -/
theorem Form.expected_of_leaf {form : Form} (isLeaf : form.model? = none) {field : Field}
    (isField : field ∈ form.fields) : field.role.expected = .outline := by
  revert field
  rcases form with (_ | _ | _ | _ | _ | _ | _) | _ <;> cases isLeaf <;> decide

end TypeDisplay
