import TypeDisplay.Proofs.Acceptance
import TypeDisplay.Proofs.Culprit

/-!
# Places of details

Every detail of a failed validation is justified by what its place leads to, and no two details have
the same place.  The induction is on the document, and is about all the roles in which a document
can be read, as a value is read in another role than the one that it is a part of.
-/

namespace TypeDisplay

open Checked
open Descriptor
open Document (Entry field? text IsJson HasDistinctKeys SameOutline bounded boundedItems
  bounded_outline bounded_segments)

namespace Position

/-! ### Type arguments -/

section argument

variable {room : Room} {v : Document}

theorem ne_text_of_sameOutline (noText : ∀ name, v ≠ text name) {x : Document}
    (same : SameOutline v x) (name : Text) : x ≠ text name := by
  cases same with
  | same => exact noText name
  | list | mapping => exact Document.noConfusion

variable (noText : ∀ name, v ≠ text name)

include noText

theorem isCulprit_argument (h : IsCulprit ⟨.descriptor, room, v⟩) :
    IsCulprit ⟨.argument, room, v⟩ := by
  rintro x same ⟨d, describes, fits⟩
  have isOther := ne_text_of_sameOutline noText same
  exact h x same ⟨d, (describesArgument_iff_describes isOther).1 describes, fits⟩

theorem next?_argument (step : Step) :
    next? ⟨.argument, room, v⟩ step = next? ⟨.descriptor, room, v⟩ step := by
  have isVariant : variant? ⟨.argument, room, v⟩ = variant? ⟨.descriptor, room, v⟩ := by
    cases v with
    | scalar s =>
      cases s with
      | text name => exact absurd rfl (noText name)
      | _ => rfl
    | _ => rfl
  cases step with
  | name s => simp [next?, isVariant]
  | index i => simp [next?, Role.ofItem?]

theorem at?_argument {place : List Step} (isPart : place ≠ []) :
    at? ⟨.argument, room, v⟩ place = at? ⟨.descriptor, room, v⟩ place := by
  cases place with
  | nil => exact absurd rfl isPart
  | cons step place => rw [at?, at?, next?_argument noText]

/-- A type argument that is not a text is a descriptor. -/
theorem Justifies.argument {d : Detail} (h : Justifies ⟨.descriptor, room, v⟩ d) :
    Justifies ⟨.argument, room, v⟩ d := by
  have onward : ∀ {place q}, q.role ≠ .descriptor →
      at? ⟨.descriptor, room, v⟩ place = some q → at? ⟨.argument, room, v⟩ place = some q := by
    intro place q isOther found
    rw [at?_argument noText, found]
    rintro rfl
    obtain rfl := Option.some.inj found
    exact isOther rfl
  obtain ⟨place, fault⟩ := d
  rw [Justifies] at h ⊢
  cases fault with
  | fieldMissing =>
    obtain ⟨front, form, inside, entries, field, isField, isRequired, isPlace, found, absent⟩ := h
    exact ⟨front, form, inside, entries, field, isField, isRequired, isPlace,
      onward (by simp) found, absent⟩
  | fieldUnknown =>
    obtain ⟨front, form, inside, entries, key, isPlace, found, present, undeclared⟩ := h
    exact ⟨front, form, inside, entries, key, isPlace, onward (by simp) found, present, undeclared⟩
  | noLevel =>
    obtain ⟨inside, items, found, refused⟩ := h
    exact ⟨inside, items, onward (by simp) found, refused⟩
  | _ =>
    obtain ⟨q, found, isCulprit⟩ := h
    cases place with
    | nil =>
      obtain rfl := Option.some.inj found
      exact ⟨_, rfl, isCulprit_argument noText isCulprit⟩
    | cons step place => exact ⟨q, (at?_argument noText (by simp)).trans found, isCulprit⟩

theorem accounts_argument
    (h : Accounts ⟨.descriptor, room, v⟩ (details ⟨.descriptor, room, v⟩)) :
    Accounts ⟨.argument, room, v⟩ (details ⟨.argument, room, v⟩) := by
  rw [details_argument_of_ne_text noText]
  exact ⟨h.apart, fun d member ↦ (h.justified d member).argument noText⟩

end argument

/-- A text names a parameter, if there is room for one. -/
theorem accounts_parameterName (name : Text) (room : Room) :
    Accounts ⟨.argument, room, text name⟩ (details ⟨.argument, room, text name⟩) := by
  have leads : next? ⟨.argument, room, text name⟩ (.name Kind.parameter.label) =
      some ⟨.fields (.variant .parameter), room, text name⟩ := by
    simp [next?, variant?, text]
  have isRead : details ⟨.argument, room, text name⟩ =
      (if room.holdsLeaf then [] else [⟨[], .tooDeep⟩]).map
        (Detail.under [.name Kind.parameter.label]) := by
    by_cases holds : room.holdsLeaf = true <;>
      simp [details, argumentOf, text, holds, fail]
  rw [isRead]
  refine Accounts.map_under ?_ leads
  split
  · exact accounts_nil _
  · rename_i isFull
    have isFullForm : room.holdsForm (.variant .parameter) = false := by
      rw [Room.holdsForm]
      simpa [Form.model?, Model.ofKind?] using isFull
    exact accounts_here (isCulprit_tooDeep isFullForm) rfl

/-! ### Values of another type -/

section otherTypes

variable {v : Document} (json : IsJson v)

include json

theorem accounts_notDescriptor (notMapping : ∀ entries, v ≠ .mapping entries) (room : Room) :
    Accounts ⟨.descriptor, room, v⟩ (details ⟨.descriptor, room, v⟩) := by
  have isRead : details ⟨.descriptor, room, v⟩ = [⟨[], .notDescriptor⟩] := by
    cases json with
    | mapping => exact absurd rfl (notMapping _)
    | _ => simp [details, Role.expected, Role.details, bounded, ofDocument, fail, Document.null,
        Document.bool, Document.int, Document.float, text]
  rw [isRead]
  exact accounts_here (isCulprit_notMapping (.inl rfl) notMapping) rfl

theorem accounts_notLevel (notMapping : ∀ entries, v ≠ .mapping entries) (room : Room) :
    Accounts ⟨.fields .level, room, v⟩ (details ⟨.fields .level, room, v⟩) := by
  have isRead : details ⟨.fields .level, room, v⟩ =
      [⟨[], if room.holds .level then .notLevel else .tooDeep⟩] := by
    by_cases holds : room.holds .level = true
    all_goals
      cases json with
      | mapping => exact absurd rfl (notMapping _)
      | _ => simp [details, Role.expected, Role.details, bounded, holds, levelOfDocument, fail,
          Fault.ofCutoff, Document.null, Document.bool, Document.int, Document.float, text]
  rw [isRead]
  refine accounts_here (isCulprit_notMapping (.inr rfl) notMapping) ?_
  split <;> rfl

theorem accounts_notList {role : Role} (asks : role.ofItem?.isSome = true)
    (notList : ∀ items, v ≠ .list items) (room : Room) :
    Accounts ⟨role, room, v⟩ (details ⟨role, room, v⟩) := by
  have isRead : details ⟨role, room, v⟩ = [⟨[], .notSequence⟩] := by
    cases role with
    | levels | arguments | segments =>
      cases json with
      | list => exact absurd rfl (notList _)
      | _ => simp [details, Role.expected, Role.details, bounded, levelsOfDocument,
          argumentsOfDocument, Conversion.segments, fail, Document.null, Document.bool,
          Document.int, Document.float, text]
    | _ => cases asks
  rw [isRead]
  exact accounts_here (isCulprit_notList asks notList) rfl

end otherTypes

/-! ### Documents -/

/-- The value can stand there in the role: levels are read inside a model, and a variant is read
where it was recognised. -/
def IsReached (role : Role) (room : Room) : Prop :=
  (∀ kind, role ≠ .fields (.variant kind)) ∧
    (role = .levels → ∃ scope, room.scope = some scope)

theorem isReached_field {form : Form} {field : Field} (isField : field ∈ form.fields)
    (room : Room) : IsReached field.role (room.insideForm form) := by
  refine ⟨fun kind ↦ Form.role_ne_fields isField (.variant kind), fun isLevels ↦ ?_⟩
  rw [Room.insideForm]
  cases isModel : form.model? with
  | some model => exact ⟨_, rfl⟩
  | none =>
    have isOutline := Form.expected_of_leaf isModel isField
    rw [isLevels] at isOutline
    cases isOutline

/-- The document accounts for its details wherever it stands. -/
def AccountsFor (v : Document) : Prop :=
  ∀ role room, IsReached role room → Accounts ⟨role, room, v⟩ (details ⟨role, room, v⟩)

section mappings

variable {entries : List Entry} {room : Room}

theorem accounts_fields {form : Form}
    (label : ∀ kind, form = .variant kind →
      Document.variant? (field? entries "kind") = some kind)
    (areTexts : ∀ entry ∈ entries, ∃ s, entry.1 = .text s)
    (distinct : (entries.map Prod.fst).Nodup) (inner : ∀ entry ∈ entries, AccountsFor entry.2) :
    Accounts ⟨.fields form, room, .mapping entries⟩
      (details ⟨.fields form, room, .mapping entries⟩) := by
  rw [details_fields label]
  split
  · split
    · rename_i isBroken
      exact accounts_here (isCulprit_brokenKey isBroken) rfl
    · refine accounts_parts areTexts distinct fun field isField v found ↦ ?_
      exact inner _ (Document.field?_mem found) field.role _ (isReached_field isField room)
  · rename_i isFull
    exact accounts_here (isCulprit_tooDeep (by simpa using isFull)) rfl

theorem accounts_descriptor (room : Room)
    (areTexts : ∀ entry ∈ entries, ∃ s, entry.1 = .text s)
    (distinct : (entries.map Prod.fst).Nodup) (inner : ∀ entry ∈ entries, AccountsFor entry.2) :
    Accounts ⟨.descriptor, room, .mapping entries⟩
      (details ⟨.descriptor, room, .mapping entries⟩) := by
  cases isKind : Document.variant? (field? entries "kind") with
  | none =>
    obtain ⟨fault, same, isFault⟩ := details_descriptor_of_unknown room isKind
    rw [same]
    refine accounts_here (isCulprit_unknownKind isKind) ?_
    rcases isFault with rfl | ⟨shown, rfl⟩ <;> rfl
  | some kind =>
    have leads : next? ⟨.descriptor, room, .mapping entries⟩ (.name kind.label) =
        some ⟨.fields (.variant kind), room, .mapping entries⟩ := by
      simp [next?, variant?, isKind]
    rw [details_descriptor isKind]
    refine (accounts_fields ?_ areTexts distinct inner).map_under leads
    rintro other ⟨⟩
    exact isKind

end mappings

/-- It is enough to account for models, levels and lists, as the other values are plain. -/
theorem accountsFor_of_roles {v : Document} (json : IsJson v)
    (asDescriptor : ∀ room, Accounts ⟨.descriptor, room, v⟩ (details ⟨.descriptor, room, v⟩))
    (asArgument : ∀ room, Accounts ⟨.argument, room, v⟩ (details ⟨.argument, room, v⟩))
    (asLevel : ∀ room, Accounts ⟨.fields .level, room, v⟩ (details ⟨.fields .level, room, v⟩))
    (asList : ∀ role room, role.ofItem?.isSome = true → IsReached role room →
      Accounts ⟨role, room, v⟩ (details ⟨role, room, v⟩)) : AccountsFor v := by
  intro role room isReached
  cases role with
  | descriptor => exact asDescriptor room
  | argument => exact asArgument room
  | fields form =>
    cases form with
    | level => exact asLevel room
    | variant kind => exact absurd rfl (isReached.1 kind)
  | levels | arguments | segments => exact asList _ room rfl isReached
  | _ => exact accounts_plain json rfl

theorem accountsFor_mapping {entries : List Entry} (json : IsJson (.mapping entries))
    (distinct : (entries.map Prod.fst).Nodup) (inner : ∀ entry ∈ entries, AccountsFor entry.2) :
    AccountsFor (.mapping entries) := by
  have areTexts : ∀ entry ∈ entries, ∃ s, entry.1 = .text s := by
    cases json with
    | mapping areTexts _ => exact areTexts
  have asDescriptor := fun room ↦ accounts_descriptor room areTexts distinct inner
  refine accountsFor_of_roles json asDescriptor ?_ ?_ ?_
  · exact fun room ↦ accounts_argument (fun _ ↦ Document.noConfusion) (asDescriptor room)
  · exact fun room ↦ accounts_fields (by simp) areTexts distinct inner
  · exact fun role room asks _ ↦ accounts_notList json asks (fun _ ↦ Document.noConfusion) room

theorem details_levels (room : Room) (items : List Document) :
    details ⟨.levels, room, .list items⟩ =
      itemDetails (fun x ↦ details ⟨.fields .level, room, x⟩) 0 items ++
        if LacksLevels (items.map (bounded .level room)) then [⟨[], .noLevel⟩] else [] := by
  rw [details_eq (by simp), Role.details, Role.expected, bounded, boundedItems_level,
    details_levelsOfDocument_list, details_levelsOfItems]
  rfl

theorem details_arguments (room : Room) (items : List Document) :
    details ⟨.arguments, room, .list items⟩ =
      itemDetails (fun x ↦ details ⟨.argument, room, x⟩) 0 items := by
  rw [details_eq (by simp), Role.details, Role.expected, bounded, argumentsOfDocument,
    details_argumentsOfItems]
  rfl

theorem details_segments (room : Room) (items : List Document) :
    details ⟨.segments, room, .list items⟩ =
      itemDetails (fun x ↦ details ⟨.name, room, x⟩) 0 items := by
  have isText : ∀ x, (Conversion.text x).details = details ⟨.name, room, x⟩ := by
    intro x
    simp only [details, Role.details, Role.expected, bounded_outline]
  rw [details_eq (by simp), Role.details, Role.expected, bounded_segments, Conversion.segments,
    details_texts, funext isText]

/-- Inside a model, a level is read exactly if it is acceptable. -/
theorem lacksLevels_bounded_iff {items : List Document} (json : ∀ x ∈ items, IsJson x)
    {room : Room} (isInside : ∃ scope, room.scope = some scope) :
    LacksLevels (items.map (bounded .level room)) ↔
      ∀ x ∈ items, ¬ IsAcceptable ⟨.fields .level, room, x⟩ := by
  obtain ⟨_, left⟩ := room
  obtain ⟨scope, rfl⟩ := isInside
  rw [LacksLevels, List.forall_mem_map]
  refine forall₂_congr fun x member ↦ ?_
  simp only [ne_eq, (agrees_of_isJson (json x member)).level scope left, ← not_exists]
  rfl

theorem accounts_levels {room : Room} {items : List Document} (json : ∀ x ∈ items, IsJson x)
    (isInside : ∃ scope, room.scope = some scope)
    (each : ∀ x ∈ items,
      Accounts ⟨.fields .level, room, x⟩ (details ⟨.fields .level, room, x⟩)) :
    Accounts ⟨.levels, room, .list items⟩ (details ⟨.levels, room, .list items⟩) := by
  have ofItems : Accounts ⟨.levels, room, .list items⟩
      (itemDetails (fun x ↦ details ⟨.fields .level, room, x⟩) 0 items) :=
    accounts_items rfl each
  rw [details_levels]
  split
  · rename_i lacks
    refine ⟨ofItems.apart.append (areApart_singleton _) ?_, fun d member ↦ ?_⟩
    · -- The lack of levels is reported at the list, and what is wrong with an item below it.
      intro d isOfItem e isLack
      obtain rfl := List.mem_singleton.1 isLack
      obtain ⟨item, -, inItem⟩ := List.mem_flatMap.1 isOfItem
      obtain ⟨place, below⟩ := isBelow_of_mem_map_under inItem
      simp [below]
    · rcases List.mem_append.1 member with isOfItem | isLack
      · exact ofItems.justified d isOfItem
      · obtain rfl := List.mem_singleton.1 isLack
        exact ⟨room, items, rfl, (lacksLevels_bounded_iff json isInside).1 lacks⟩
  · rwa [List.append_nil]

theorem accountsFor_list {items : List Document} (json : IsJson (.list items))
    (inner : ∀ x ∈ items, AccountsFor x) : AccountsFor (.list items) := by
  have noMapping : ∀ entries, Document.list items ≠ .mapping entries := fun _ ↦ Document.noConfusion
  have asDescriptor := accounts_notDescriptor json noMapping
  refine accountsFor_of_roles json asDescriptor ?_ (accounts_notLevel json noMapping) ?_
  · exact fun room ↦ accounts_argument (fun _ ↦ Document.noConfusion) (asDescriptor room)
  · intro role room asks isReached
    cases role with
    | levels =>
      have areJson : ∀ x ∈ items, IsJson x := by
        cases json with
        | list each => exact each
      exact accounts_levels areJson (isReached.2 rfl) fun x member ↦
        inner x member _ _ ⟨by simp, by simp⟩
    | arguments =>
      rw [details_arguments]
      exact accounts_items rfl fun x member ↦ inner x member _ _ ⟨by simp, by simp⟩
    | segments =>
      rw [details_segments]
      exact accounts_items rfl fun x member ↦ inner x member _ _ ⟨by simp, by simp⟩
    | _ => cases asks

theorem accountsFor_scalar {s : Scalar} (json : IsJson (.scalar s)) : AccountsFor (.scalar s) := by
  have noMapping : ∀ entries, Document.scalar s ≠ .mapping entries := fun _ ↦ Document.noConfusion
  have asDescriptor := accounts_notDescriptor json noMapping
  refine accountsFor_of_roles json asDescriptor ?_ (accounts_notLevel json noMapping) ?_
  · intro room
    by_cases isText : ∃ name, Document.scalar s = text name
    · obtain ⟨name, isName⟩ := isText
      rw [isName]
      exact accounts_parameterName name room
    · exact accounts_argument (fun name same ↦ isText ⟨name, same⟩) (asDescriptor room)
  · exact fun role room asks _ ↦ accounts_notList json asks (fun _ ↦ Document.noConfusion) room

theorem accountsFor {v : Document} (json : IsJson v) (distinct : HasDistinctKeys v) :
    AccountsFor v := by
  -- The parts are read in other roles and rooms than the whole, so it is stated for all of them.
  induction json with
  | list each ih =>
    cases distinct with
    | list distinctItems =>
      exact accountsFor_list (.list each) fun x member ↦ ih x member (distinctItems x member)
  | mapping areTexts each ih =>
    cases distinct with
    | mapping distinct distinctValues =>
      exact accountsFor_mapping (.mapping areTexts each) distinct fun entry member ↦
        ih entry member (distinctValues entry member)
  | null => exact accountsFor_scalar .null
  | bool b => exact accountsFor_scalar (.bool b)
  | int n => exact accountsFor_scalar (.int n)
  | float x => exact accountsFor_scalar (.float x)
  | text s => exact accountsFor_scalar (.text s)

end Position

namespace Descriptor

/-- Every detail of a failed validation is justified by what its place leads to, and no two details
have the same place. -/
theorem places_of_details {v : Document} (json : IsJson v) (distinct : HasDistinctKeys v)
    {details : List Detail} (failed : validate v = .error details) :
    (details.map Detail.place).Nodup ∧
      ∀ d ∈ details, Position.Justifies ⟨.descriptor, .whole, v⟩ d := by
  have reached : Position.IsReached .descriptor .whole := ⟨by simp, by simp⟩
  have accounts := Position.accountsFor json distinct .descriptor .whole reached
  have same : Position.details ⟨.descriptor, .whole, v⟩ = details :=
    congrArg Checked.details failed
  rw [same] at accounts
  exact ⟨accounts.apart, accounts.justified⟩

theorem hasDistinctKeys_record {fields : List (String × Document)}
    (distinct : (fields.map Prod.fst).Nodup) (each : ∀ field ∈ fields, HasDistinctKeys field.2) :
    HasDistinctKeys (record fields) := by
  refine .mapping ?_ ?_
  · have asKeys := distinct.map (f := fun name : String ↦ Scalar.text name)
      fun a b same ↦ Text.ofString_injective (Scalar.text.inj same)
    rwa [List.map_map] at asKeys ⊢
  · intro entry member
    obtain ⟨field, isField, rfl⟩ := List.mem_map.1 member
    exact each field isField

/-- A level without a name, among whose arguments there is one that is none. -/
def namelessLevel : Document :=
  record [("type_arguments", .list [text "T", .list []])]

/-- Labels of variants, names of fields and unknown keys are the same words here. -/
def levelsOfLevels : Document :=
  record
    [("array", .int 1), ("rank", .int 0),
      ("element_type", record
        [("named", .null), ("kind", text "named"),
          ("levels", .list [text "levels", namelessLevel])]),
      ("kind", text "array")]

def levelsOfLevelsDetails : List Detail :=
  let element := [.name "array", .name "element_type", .name "named"]
  let levels := element ++ [.name "levels"]
  [⟨levels ++ [.index 0], .notLevel⟩,
    ⟨levels ++ [.index 1, .name "name"], .fieldMissing⟩,
    ⟨levels ++ [.index 1, .name "type_arguments", .index 1], .notDescriptor⟩,
    ⟨levels, .noLevel⟩,
    ⟨element ++ [.name "named"], .fieldUnknown⟩,
    ⟨[.name "array", .name "rank"], .belowOne⟩,
    ⟨[.name "array", .name "array"], .fieldUnknown⟩]

theorem isJson_levelsOfLevels : IsJson levelsOfLevels := by
  have level : IsJson namelessLevel := by
    apply isJson_record
    simp [IsJson.list, IsJson.text]
  apply isJson_record
  simp only [List.forall_mem_cons]
  refine ⟨.int 1, .int 0, ?_, .text _, by simp⟩
  apply isJson_record
  simp [IsJson.null, IsJson.list, IsJson.text, level]

theorem hasDistinctKeys_levelsOfLevels : HasDistinctKeys levelsOfLevels := by
  have level : HasDistinctKeys namelessLevel := by
    apply hasDistinctKeys_record (by decide)
    simp [HasDistinctKeys.list, HasDistinctKeys.scalar, text]
  apply hasDistinctKeys_record (by decide)
  simp only [List.forall_mem_cons]
  refine ⟨.scalar _, .scalar _, ?_, .scalar _, by simp⟩
  apply hasDistinctKeys_record (by decide)
  simp [HasDistinctKeys.list, HasDistinctKeys.scalar, Document.null, text, level]

theorem places_levelsOfLevels :
    validate levelsOfLevels = .error levelsOfLevelsDetails ∧
      (levelsOfLevelsDetails.map Detail.place).Nodup ∧
      ∀ d ∈ levelsOfLevelsDetails,
        Position.Justifies ⟨.descriptor, .whole, levelsOfLevels⟩ d := by
  have failed : validate levelsOfLevels = .error levelsOfLevelsDetails :=
    eq_error_of_details (by decide +kernel) (by decide)
  exact ⟨failed, places_of_details isJson_levelsOfLevels hasDistinctKeys_levelsOfLevels failed⟩

end Descriptor
end TypeDisplay
