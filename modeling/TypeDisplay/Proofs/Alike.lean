import TypeDisplay.Proofs.Culprit
import TypeDisplay.Proofs.Matching

/-!
# Documents that are read alike

Two documents are alike in a role when they differ only in the keys of the mappings that are read as
models, and in type arguments that are written in different ways.  Which differences are meant is
left open here.  Where keys and type arguments of the kinds in question match, so do the documents.
-/

namespace TypeDisplay

open Checked
open Descriptor
open Document (Entry field? text bounded boundedEntries bounded_outline field?_boundedEntries)

namespace Role

/-- The form of the model as which a mapping is read. -/
def form? (role : Role) (entries : List Entry) : Option Form :=
  match role with
  | descriptor | argument => (Document.variant? (field? entries "kind")).map .variant
  | fields form => some form
  | _ => none

/-- The role of the value of a key in a mapping. -/
def ofValue (role : Role) (entries : List Entry) : Scalar → Role
  | .text s =>
      match (role.form? entries).bind fun form ↦ form.field? s with
      | some field => field.role
      | none => .unread
  | _ => .unread

/-- Mappings are read as models in the role. -/
def asksForModel : Role → Bool
  | descriptor | argument | fields .level => true
  | _ => false

end Role

/-- The documents differ only in keys, as `keys` says, and in type arguments, as `argument` says. -/
inductive Alike (keys : List Scalar → List Scalar → Prop)
    (argument : Document → Document → Prop) : Role → Document → Document → Prop where
  | same (role : Role) (v : Document) : Alike keys argument role v v
  | mapping {role : Role} {entries others : List Entry} (asks : role.asksForModel = true)
      (sameKeys : keys (entries.map Prod.fst) (others.map Prod.fst))
      (each : ∀ key v w, (key, v) ∈ entries → (key, w) ∈ others →
        Alike keys argument (role.ofValue entries key) v w) :
      Alike keys argument role (.mapping entries) (.mapping others)
  | list {role itemRole : Role} {items others : List Document}
      (isList : role.ofItem? = some itemRole) (sameLength : items.length = others.length)
      (each : ∀ i h h', Alike keys argument itemRole (items.get ⟨i, h⟩) (others.get ⟨i, h'⟩)) :
      Alike keys argument role (.list items) (.list others)
  | argument {v w : Document} (isArgument : argument v w) : Alike keys argument .argument v w

section

variable {keys : List Scalar → List Scalar → Prop} {argument : Document → Document → Prop}
  {role : Role}

theorem alike_list {itemRole : Role} {items others : List Document}
    (isList : role.ofItem? = some itemRole)
    (each : List.Forall₂ (Alike keys argument itemRole) items others) :
    Alike keys argument role (.list items) (.list others) := by
  obtain ⟨sameLength, inPlace⟩ := List.forall₂_iff_get.1 each
  exact .list isList sameLength inPlace

theorem alike_record {fields others : List (String × Document)} (asks : role.asksForModel = true)
    (sameKeys : keys ((fields.map Prod.fst).map fun name : String ↦ .text name)
      ((others.map Prod.fst).map fun name : String ↦ .text name))
    (each : ∀ field ∈ fields, ∀ other ∈ others, field.1 = other.1 →
      Alike keys argument
        (role.ofValue (fields.map fun field ↦ (.text field.1, field.2)) (.text field.1))
        field.2 other.2) :
    Alike keys argument role (record fields) (record others) := by
  refine .mapping asks ?_ fun key v w isEntry isOther ↦ ?_
  · rw [List.map_map, List.map_map] at sameKeys ⊢
    exact sameKeys
  · obtain ⟨field, isField, same⟩ := List.mem_map.1 isEntry
    obtain ⟨other, isOtherField, same'⟩ := List.mem_map.1 isOther
    obtain ⟨rfl, rfl⟩ := Prod.mk.inj same
    obtain ⟨sameKey, rfl⟩ := Prod.mk.inj same'
    exact each field isField other isOtherField
      (Text.ofString_injective (Scalar.text.inj sameKey)).symm

/-- The value of one field may differ. -/
theorem alike_field (before after : List (String × Document)) {name : String} {v w : Document}
    (asks : role.asksForModel = true) (refl : ∀ ks, keys ks ks)
    (distinct : ((before ++ (name, v) :: after).map Prod.fst).Nodup)
    (inner : Alike keys argument
      (role.ofValue ((before ++ (name, v) :: after).map fun field ↦ (.text field.1, field.2))
        (.text name)) v w) :
    Alike keys argument role (record (before ++ (name, v) :: after))
      (record (before ++ (name, w) :: after)) := by
  refine alike_record asks ?_ fun field isField other isOther same ↦ ?_
  · simp only [List.map_append, List.map_cons]
    exact refl _
  · -- Fields of one name are one field, so only the given one has changed.
    have apart := List.inj_on_of_nodup_map distinct
    have isSame : (name, v) ∈ before ++ (name, v) :: after := by simp
    by_cases isName : field.1 = name
    · obtain rfl : field = (name, v) := apart isField isSame isName
      have distinct' : ((before ++ (name, w) :: after).map Prod.fst).Nodup := by
        simpa only [List.map_append, List.map_cons] using distinct
      obtain rfl : other = (name, w) :=
        List.inj_on_of_nodup_map distinct' isOther (by simp) same.symm
      exact inner
    · have isOther' : other ∈ before ++ (name, v) :: after := by
        rcases List.mem_append.1 isOther with isBefore | isAfter
        · exact List.mem_append_left _ isBefore
        · rcases List.mem_cons.1 isAfter with rfl | isAfter
          · exact absurd same isName
          · exact List.mem_append_right _ (List.mem_cons_of_mem _ isAfter)
      obtain rfl := apart isField isOther' same
      exact .same _ _

end

variable (D : List Detail → List Detail → Prop)

/-- What is read in the role matches where there is the given room. -/
def Role.MatchesIn (role : Role) (room : Room) (v w : Document) : Prop :=
  match role with
  | .argument => (argumentOf room v).Matches D (argumentOf room w)
  | role => role.Matches D (v.bounded role.expected room) (w.bounded role.expected room)

variable {D}

theorem Role.matchesIn_iff {role : Role} (notArgument : role ≠ .argument) {room : Room}
    {v w : Document} :
    role.MatchesIn D room v w ↔
      role.Matches D (v.bounded role.expected room) (w.bounded role.expected room) := by
  cases role with
  | argument => exact absurd rfl notArgument
  | _ => rfl

theorem Role.matches_refl (congruence : IsCongruence D) (role : Role) (v : Document) :
    role.Matches D v v := by
  rcases role with _ | _ | (_ | _) | _ | _ | _ | _ | _ | _ | _ | _ | _ | _
  all_goals first
    | exact Matches.refl congruence _
    | exact rfl

theorem Role.matchesIn_refl (congruence : IsCongruence D) (role : Role) (room : Room)
    (v : Document) : role.MatchesIn D room v v := by
  by_cases isArgument : role = .argument
  · subst isArgument
    exact Matches.refl congruence _
  · rw [matchesIn_iff isArgument]
    exact matches_refl congruence role _

/-- Plain values only match themselves. -/
theorem Role.eq_of_matchesIn {role : Role} (isPlain : role.expected = .outline) {room : Room}
    {v w : Document} (h : role.MatchesIn D room v w) : v = w := by
  rcases role with _ | _ | (_ | _) | _ | _ | _ | _ | _ | _ | _ | _ | _ | _
  all_goals first
    | simpa only [MatchesIn, Matches, expected, bounded_outline] using h
    | cases isPlain

/-! ### Mappings -/

section mappings

variable {entries others : List Entry}

theorem rel_field? {R : Scalar → Document → Document → Prop}
    (sameKeys : ∀ key, key ∈ entries.map Prod.fst ↔ key ∈ others.map Prod.fst)
    (each : ∀ key v w, (key, v) ∈ entries → (key, w) ∈ others → R key v w) (name : String) :
    Option.Rel (R (.text name)) (field? entries name) (field? others name) := by
  cases found : field? entries name with
  | none =>
    have absent : field? others name = none := by
      rw [field?_eq_none_iff, ← sameKeys, ← field?_eq_none_iff, found]
    rw [absent]
    exact .none
  | some v =>
    cases found' : field? others name with
    | none =>
      rw [field?_eq_none_iff, ← sameKeys, ← field?_eq_none_iff, found] at found'
      cases found'
    | some w => exact .some (each _ v w (Document.field?_mem found) (Document.field?_mem found'))

theorem rel_map {R S : Document → Document → Prop} {f : Document → Document}
    {v w : Option Document} (h : Option.Rel R v w) (each : ∀ x y, R x y → S (f x) (f y)) :
    Option.Rel S (v.map f) (w.map f) := by
  cases h with
  | none => exact .none
  | some related => exact .some (each _ _ related)

/-- The fields of a model match once marks stand in place of what is too deep. -/
theorem matches_boundedEntries {form : Form} {model : Model} (isModel : form.model? = some model)
    (room : Room)
    (found : ∀ field ∈ form.fields, Option.Rel (fun v w ↦ ∀ room, field.role.MatchesIn D room v w)
      (field? entries field.name) (field? others field.name)) :
    ∀ field ∈ form.fields, field.Matches D (boundedEntries (some model) room entries)
      (boundedEntries (some model) room others) := by
  intro field isField
  rw [Field.Matches, field?_boundedEntries, field?_boundedEntries,
    Form.under_name isModel isField]
  refine rel_map (found field isField) fun v w related ↦ ?_
  exact (Role.matchesIn_iff (Form.role_ne_argument isField)).1 (related room)

theorem matches_leafEntries {form : Form} (isLeaf : form.model? = none)
    (found : ∀ field ∈ form.fields, Option.Rel (fun v w ↦ ∀ room, field.role.MatchesIn D room v w)
      (field? entries field.name) (field? others field.name)) :
    ∀ field ∈ form.fields, field.Matches D entries others := by
  intro field isField
  have plain : ∀ v w, (∀ room, field.role.MatchesIn D room v w) → field.role.Matches D v w := by
    intro v w related
    have inWhole := related .whole
    rwa [Role.matchesIn_iff (Form.role_ne_argument isField), Form.expected_of_leaf isLeaf isField,
      bounded_outline, bounded_outline] at inWhole
  rw [Field.Matches]
  simpa only [Option.map_id_fun', id_eq] using rel_map (f := fun v ↦ v) (found field isField) plain

theorem ofDocument_of_unknown (unknown : Document.variant? (field? entries "kind") = none)
    (sameKind : field? entries "kind" = field? others "kind") :
    ofDocument (.mapping entries) = ofDocument (.mapping others) := by
  rw [ofDocument, ofDocument, ← sameKind]
  cases found : field? entries "kind" with
  | none => rfl
  | some label =>
    rw [found] at unknown
    simp only [unknown]

theorem ofDocument_of_label {kind : Kind}
    (label : Document.variant? (field? entries "kind") = some kind) :
    ofDocument (.mapping entries) =
      (if hasBrokenKey entries then fail .textUndecodable else ofEntries kind entries).within
        (.name kind.label) := by
  rw [ofDocument]
  cases found : field? entries "kind" with
  | none =>
    rw [found] at label
    cases label
  | some v =>
    rw [found] at label
    simp only [label]
    split <;> rfl

variable (congruence : IsCongruence D) (sameBroken : hasBrokenKey entries = hasBrokenKey others)

include congruence sameBroken

theorem matches_of_label {kind : Kind}
    (label : Document.variant? (field? entries "kind") = some kind)
    (label' : Document.variant? (field? others "kind") = some kind)
    (inner : (ofEntries kind entries).Matches D (ofEntries kind others)) :
    (ofDocument (.mapping entries)).Matches D (ofDocument (.mapping others)) := by
  rw [ofDocument_of_label label, ofDocument_of_label label', sameBroken]
  split
  · exact .refl congruence _
  · exact inner.within congruence _

variable (unknown : ∀ names, D (unknownKeys names entries) (unknownKeys names others))

include unknown

theorem matchesIn_model {kind : Kind}
    (label : Document.variant? (field? entries "kind") = some kind)
    (sameKind : field? entries "kind" = field? others "kind")
    (found : ∀ field ∈ (Form.variant kind).fields,
      Option.Rel (fun v w ↦ ∀ room, field.role.MatchesIn D room v w)
        (field? entries field.name) (field? others field.name)) (room : Room) :
    Role.MatchesIn D .descriptor room (.mapping entries) (.mapping others) := by
  have label' := label
  rw [sameKind] at label'
  rw [Role.matchesIn_iff (by simp), Role.Matches, Role.expected]
  simp only [bounded, label, label']
  cases isModel : Model.ofKind? kind with
  | none =>
    simp only
    split
    · exact matches_of_label congruence sameBroken label label' (matches_ofEntries congruence kind
        (matches_leafEntries isModel found) (unknown _))
    · exact .refl congruence _
  | some model =>
    have notLevel : model ≠ .level := by
      rintro rfl
      cases kind <;> cases isModel
    have ofForm : Form.model? (.variant kind) = some model := isModel
    simp only
    split
    · refine matches_of_label congruence ?_ (Position.variant?_bounded label notLevel)
        (Position.variant?_bounded label' notLevel) (matches_ofEntries congruence kind
          (matches_boundedEntries ofForm _ found) ?_)
      · rwa [hasBrokenKey_boundedEntries, hasBrokenKey_boundedEntries]
      · rw [unknownKeys_boundedEntries, unknownKeys_boundedEntries]
        exact unknown _
    · exact .refl congruence _

theorem matchesIn_level
    (found : ∀ field ∈ Form.level.fields,
      Option.Rel (fun v w ↦ ∀ room, field.role.MatchesIn D room v w)
        (field? entries field.name) (field? others field.name)) (room : Room) :
    Role.MatchesIn D (.fields .level) room (.mapping entries) (.mapping others) := by
  rw [Role.matchesIn_iff (by simp), Role.Matches, Role.expected, bounded, bounded]
  split
  · refine matches_level congruence ?_ (matches_boundedEntries rfl _ found) ?_
    · rwa [hasBrokenKey_boundedEntries, hasBrokenKey_boundedEntries]
    · rw [unknownKeys_boundedEntries, unknownKeys_boundedEntries]
      exact unknown _
  · exact .refl congruence _

end mappings

/-! ### Documents -/

namespace Role

variable {role : Role} {entries : List Entry}

theorem ofValue_name {form : Form} (isForm : role.form? entries = some form) {field : Field}
    (isField : field ∈ form.fields) : role.ofValue entries (.text field.name) = field.role := by
  simp [ofValue, isForm, Form.field?_name isField]

/-- The label of a kind is not a field. -/
theorem ofValue_kind : Role.ofValue .descriptor entries (.text "kind") = .unread := by
  have noField : ∀ kind, (Form.variant kind).field? "kind" = none := by
    intro kind
    cases kind <;> decide
  rw [ofValue, form?]
  cases Document.variant? (field? entries "kind") with
  | none => rfl
  | some kind => simp [noField]

end Role

section documents

variable (congruence : IsCongruence D) {entries others : List Entry}
  (sameBroken : hasBrokenKey entries = hasBrokenKey others)
  (unknown : ∀ names, D (unknownKeys names entries) (unknownKeys names others))

include congruence sameBroken unknown

theorem matchesIn_descriptor
    (values : ∀ name : String, Option.Rel
      (fun v w ↦ ∀ room, (Role.ofValue .descriptor entries (.text name)).MatchesIn D room v w)
      (field? entries name) (field? others name)) (room : Room) :
    Role.MatchesIn D .descriptor room (.mapping entries) (.mapping others) := by
  have sameKind : field? entries "kind" = field? others "kind" := by
    have kinds := values "kind"
    rw [Role.ofValue_kind] at kinds
    generalize field? entries "kind" = kind at kinds
    generalize field? others "kind" = other at kinds
    cases kinds with
    | none => rfl
    | some related => rw [Role.eq_of_matchesIn rfl (related .whole)]
  cases isKind : Document.variant? (field? entries "kind") with
  | none =>
    have isKind' := isKind
    rw [sameKind] at isKind'
    rw [Role.matchesIn_iff (by simp), Role.Matches, Role.expected, bounded, bounded]
    simp only [isKind, isKind']
    rw [ofDocument_of_unknown isKind sameKind]
    exact .refl congruence _
  | some kind =>
    have isForm : Role.form? .descriptor entries = some (.variant kind) := by
      rw [Role.form?, isKind]
      rfl
    refine matchesIn_model congruence sameBroken unknown isKind sameKind
      (fun field isField ↦ ?_) room
    rw [← Role.ofValue_name isForm isField]
    exact values field.name

end documents

/-- Documents that are alike are read alike, as far as this holds of the keys and of the type
arguments in which they differ. -/
theorem Alike.matchesIn {keys : List Scalar → List Scalar → Prop}
    {argument : Document → Document → Prop} (congruence : IsCongruence D)
    (mem_iff : ∀ {ks ls}, keys ks ls → ∀ key, key ∈ ks ↔ key ∈ ls)
    (unknown : ∀ {entries others : List Entry}, keys (entries.map Prod.fst) (others.map Prod.fst) →
      ∀ names, D (unknownKeys names entries) (unknownKeys names others))
    (ofArgument : ∀ {v w}, argument v w → ∀ room,
      (argumentOf room v).Matches D (argumentOf room w))
    {role : Role} {v w : Document} (h : Alike keys argument role v w) (room : Room) :
    role.MatchesIn D room v w := by
  -- The induction is on how the documents are alike; there is less room for their parts.
  induction h generalizing room with
  | same role v => exact role.matchesIn_refl congruence room v
  | argument isArgument => exact ofArgument isArgument room
  | @mapping role entries others asks sameKeys _ ih =>
    have sameBroken := hasBrokenKey_eq_of_mem_iff (mem_iff sameKeys)
    have values := rel_field? (mem_iff sameKeys) ih
    have unknown := unknown sameKeys
    cases role with
    | descriptor => exact matchesIn_descriptor congruence sameBroken unknown values room
    | argument =>
      have asDescriptor := matchesIn_descriptor congruence sameBroken unknown values room
      rwa [Role.MatchesIn, argumentOf_of_ne_text (fun _ ↦ Document.noConfusion),
        argumentOf_of_ne_text (fun _ ↦ Document.noConfusion)]
    | fields form =>
      cases form with
      | variant kind => cases asks
      | level =>
        refine matchesIn_level congruence sameBroken unknown (fun field isField ↦ ?_) room
        have isForm : Role.form? (.fields .level) entries = some .level := rfl
        rw [← Role.ofValue_name isForm isField]
        exact values field.name
    | _ => cases asks
  | @list role itemRole items others isList sameLength _ ih =>
    have each : List.Forall₂ (fun v w ↦ ∀ room, itemRole.MatchesIn D room v w) items others :=
      List.forall₂_iff_get.2 ⟨sameLength, ih⟩
    cases role with
    | levels =>
      obtain rfl := Option.some.inj isList
      rw [Role.matchesIn_iff (by simp), Role.expected, bounded, bounded, boundedItems_level,
        boundedItems_level]
      refine matches_levels congruence ?_
      rw [List.forall₂_map_left_iff, List.forall₂_map_right_iff]
      exact each.imp fun v w related ↦ related room
    | arguments =>
      obtain rfl := Option.some.inj isList
      rw [Role.matchesIn_iff (by simp), Role.expected, bounded, bounded, Role.Matches,
        argumentsOfDocument, argumentsOfDocument]
      exact matches_arguments congruence room (each.imp fun v w related ↦ related room) 0
    | segments =>
      obtain rfl := Option.some.inj isList
      have same : items = others :=
        List.forall₂_eq_eq_eq ▸ each.imp fun v w related ↦ Role.eq_of_matchesIn rfl (related room)
      rw [same]
      exact Role.matchesIn_refl congruence _ _ _
    | _ => cases isList

end TypeDisplay
