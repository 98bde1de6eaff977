import TypeDisplay.Proofs.PartDetails

/-!
# Culprits

Every detail of a failed validation is justified by what its place leads to, and no two details have
the same place.  Both hold for a position when they hold for its parts, as the parts lie below
different steps.
-/

namespace TypeDisplay

open Checked
open Descriptor
open Document (Entry field? text IsJson HasDistinctKeys SameOutline bounded bounded_outline
  bounded_segments)

/-! ### Places -/

/-- No two details have the same place. -/
def AreApart (details : List Detail) : Prop := (details.map Detail.place).Nodup

def Detail.IsBelow (step : Step) (d : Detail) : Prop := ∃ place, d.place = step :: place

theorem Detail.IsBelow.place_ne {step other : Step} {d e : Detail} (h : d.IsBelow step)
    (h' : e.IsBelow other) (isOther : step ≠ other) : d.place ≠ e.place := by
  obtain ⟨place, below⟩ := h
  obtain ⟨place', below'⟩ := h'
  intro same
  rw [below, below'] at same
  exact isOther (List.cons.inj same).1

theorem isBelow_of_mem_map_under {step : Step} {details : List Detail} {d : Detail}
    (h : d ∈ details.map (Detail.under [step])) : d.IsBelow step := by
  obtain ⟨e, -, rfl⟩ := List.mem_map.1 h
  exact ⟨e.place, rfl⟩

theorem areApart_singleton (d : Detail) : AreApart [d] :=
  List.nodup_singleton _

theorem AreApart.map_under {details : List Detail} (h : AreApart details) (place : List Step) :
    AreApart (details.map (Detail.under place)) := by
  have moved : (details.map (Detail.under place)).map Detail.place =
      (details.map Detail.place).map (place ++ ·) := by
    simp [Detail.under]
  rw [AreApart, moved]
  exact h.map fun _ _ ↦ List.append_cancel_left

theorem AreApart.append {details others : List Detail} (h : AreApart details)
    (h' : AreApart others) (disjoint : ∀ d ∈ details, ∀ e ∈ others, d.place ≠ e.place) :
    AreApart (details ++ others) := by
  rw [AreApart, List.map_append, List.nodup_append]
  refine ⟨h, h', ?_⟩
  intro place isFirst place' isOther
  obtain ⟨d, member, rfl⟩ := List.mem_map.1 isFirst
  obtain ⟨e, member', rfl⟩ := List.mem_map.1 isOther
  exact disjoint d member e member'

/-- Parts below different steps do not meet. -/
theorem areApart_flatMap {ι : Type} {parts : List ι} {read : ι → List Detail} (step : ι → Step)
    (distinct : (parts.map step).Nodup) (each : ∀ i ∈ parts, AreApart (read i))
    (below : ∀ i ∈ parts, ∀ d ∈ read i, d.IsBelow (step i)) : AreApart (parts.flatMap read) := by
  induction parts with
  | nil => exact List.nodup_nil
  | cons i parts ih =>
    rw [List.map_cons, List.nodup_cons] at distinct
    have rest : AreApart (parts.flatMap read) :=
      ih distinct.2 (fun j member ↦ each j (List.mem_cons_of_mem _ member))
        fun j member ↦ below j (List.mem_cons_of_mem _ member)
    refine (each i (by simp)).append rest ?_
    intro d isFirst e isOther
    obtain ⟨j, member, inPart⟩ := List.mem_flatMap.1 isOther
    refine (below i (by simp) d isFirst).place_ne
      (below j (List.mem_cons_of_mem _ member) e inPart) ?_
    intro same
    exact distinct.1 (same ▸ List.mem_map_of_mem member)

theorem areApart_itemDetails {read : Document → List Detail} {items : List Document}
    (each : ∀ x ∈ items, AreApart (read x)) (index : Nat) :
    AreApart (itemDetails read index items) := by
  refine areApart_flatMap (fun item ↦ .index item.2) ?_ ?_ ?_
  · have indices : ((items.zipIdx index).map Prod.snd).Nodup := by
      rw [List.zipIdx_map_snd]
      exact List.nodup_range'
    have atIndices := indices.map (f := fun i : Nat ↦ Step.index i)
      fun i j same ↦ Int.ofNat.inj (Step.index.inj same)
    rwa [List.map_map] at atIndices
  · intro item member
    exact (each item.1 (List.fst_mem_of_mem_zipIdx member)).map_under _
  · intro item _ d inItem
    exact isBelow_of_mem_map_under inItem

/-! ### Keys -/

section keys

variable {entries : List Entry} {names : List String}

theorem field?_eq_none_iff {name : String} :
    field? entries name = none ↔ Scalar.text name ∉ entries.map Prod.fst := by
  simp only [field?, Option.map_eq_none_iff, List.find?_eq_none, decide_eq_true_eq, List.mem_map,
    not_exists, not_and]

theorem unknownKeys_eq_filterMap :
    unknownKeys names entries = (entries.map Prod.fst).filterMap (keyDetail? names) := by
  rw [unknownKeys, List.filterMap_map]
  rfl

variable (areTexts : ∀ entry ∈ entries, ∃ s, entry.1 = .text s)

include areTexts

theorem mem_unknownKeys {d : Detail} (h : d ∈ unknownKeys names entries) :
    ∃ key, d = ⟨[.name key], .fieldUnknown⟩ ∧ .text key ∈ entries.map Prod.fst ∧
      ∀ name ∈ names, key ≠ .ofString name := by
  obtain ⟨entry, member, reported⟩ := List.mem_filterMap.1 h
  obtain ⟨key, isKey⟩ := areTexts entry member
  have undeclared : ∀ name ∈ names, key ≠ .ofString name := by
    rintro name isName rfl
    have declared := keyDetail?_eq_none_iff.2 ⟨name, isName, isKey⟩
    rw [declared] at reported
    cases reported
  rw [isKey, keyDetail?] at reported
  split at reported
  · cases reported
  · exact ⟨key, (Option.some.inj reported).symm, isKey ▸ List.mem_map_of_mem member, undeclared⟩

theorem areApart_unknownKeys (distinct : (entries.map Prod.fst).Nodup) :
    AreApart (unknownKeys names entries) := by
  have apart : entries.Pairwise fun a b ↦ a.1 ≠ b.1 := List.pairwise_map.1 distinct
  have apartMembers : entries.Pairwise fun a b ↦ a ∈ entries ∧ b ∈ entries ∧ a.1 ≠ b.1 :=
    apart.imp_of_mem fun isA isB other ↦ ⟨isA, isB, other⟩
  rw [AreApart, unknownKeys, List.map_filterMap]
  refine apartMembers.filterMap _ ?_
  rintro a b ⟨isA, isB, other⟩ place reported place' reported'
  obtain ⟨d, fromA, rfl⟩ := Option.map_eq_some_iff.1 reported
  obtain ⟨e, fromB, rfl⟩ := Option.map_eq_some_iff.1 reported'
  obtain ⟨s, isS⟩ := areTexts a isA
  obtain ⟨t, isT⟩ := areTexts b isB
  rw [isS, keyDetail?] at fromA
  rw [isT, keyDetail?] at fromB
  split at fromA
  · cases fromA
  split at fromB
  · cases fromB
  obtain rfl := Option.some.inj fromA
  obtain rfl := Option.some.inj fromB
  intro same
  simp only [List.cons.injEq, Step.name.injEq, and_true] at same
  exact other (by rw [isS, isT, same])

end keys

theorem hasBrokenKey_eq_of_mem_iff {entries others : List Entry}
    (sameKeys : ∀ key, key ∈ entries.map Prod.fst ↔ key ∈ others.map Prod.fst) :
    hasBrokenKey entries = hasBrokenKey others := by
  have ofKeys : ∀ entries : List Entry,
      hasBrokenKey entries = (entries.map Prod.fst).any isBroken := by
    intro entries
    rw [hasBrokenKey, List.any_map]
    rfl
  rw [ofKeys, ofKeys, Bool.eq_iff_iff, List.any_eq_true, List.any_eq_true]
  exact exists_congr fun key ↦ and_congr_left' (sameKeys key)

/-! ### Single faults -/

/-- The fault is in a value that is there. -/
def Fault.isOfValue : Fault → Bool
  | fieldMissing | fieldUnknown | noLevel => false
  | _ => true

namespace Position

/-- The details are those of the position: each is justified there, at a place of its own. -/
structure Accounts (p : Position) (details : List Detail) : Prop where
  apart : AreApart details
  justified : ∀ d ∈ details, p.Justifies d

theorem accounts_nil (p : Position) : p.Accounts [] :=
  ⟨List.nodup_nil, fun _ member ↦ absurd member List.not_mem_nil⟩

theorem justifies_here {p : Position} (isCulprit : p.IsCulprit) {fault : Fault}
    (ofValue : fault.isOfValue = true) : p.Justifies ⟨[], fault⟩ := by
  cases fault with
  | fieldMissing | fieldUnknown | noLevel => cases ofValue
  | _ => exact ⟨p, rfl, isCulprit⟩

theorem accounts_here {p : Position} (isCulprit : p.IsCulprit) {fault : Fault}
    (ofValue : fault.isOfValue = true) : p.Accounts [⟨[], fault⟩] := by
  refine ⟨areApart_singleton _, fun d member ↦ ?_⟩
  obtain rfl := List.mem_singleton.1 member
  exact justifies_here isCulprit ofValue

theorem Accounts.map_under {p q : Position} {details : List Detail} (h : q.Accounts details)
    {step : Step} (leads : p.next? step = some q) :
    p.Accounts (details.map (Detail.under [step])) := by
  refine ⟨h.apart.map_under _, fun d member ↦ ?_⟩
  obtain ⟨e, isInner, rfl⟩ := List.mem_map.1 member
  exact (h.justified e isInner).under leads

/-! ### Lists and mappings -/

theorem next?_index {role itemRole : Role} (isItem : role.ofItem? = some itemRole) (room : Room)
    {items : List Document} {i : Nat} {x : Document} (found : items[i]? = some x) :
    next? ⟨role, room, .list items⟩ (.index i) = some ⟨itemRole, room, x⟩ := by
  have isIndex : (i : Int).toNat? = some i := rfl
  simp [next?, isItem, isIndex, found]

theorem accounts_items {role itemRole : Role} (isItem : role.ofItem? = some itemRole)
    {room : Room} {items : List Document} {read : Document → List Detail}
    (each : ∀ x ∈ items, Accounts ⟨itemRole, room, x⟩ (read x)) :
    Accounts ⟨role, room, .list items⟩ (itemDetails read 0 items) := by
  refine ⟨areApart_itemDetails (fun x member ↦ (each x member).apart) 0, fun d member ↦ ?_⟩
  obtain ⟨⟨x, i⟩, isAt, inItem⟩ := List.mem_flatMap.1 member
  have found : items[i]? = some x := List.mem_zipIdx_iff_getElem?.1 isAt
  have inside := (each x (List.mem_of_getElem? found)).map_under (next?_index isItem room found)
  exact inside.justified d inItem

section fields

variable {form : Form} {room : Room} {entries : List Entry}

theorem next?_field {field : Field} (isField : field ∈ form.fields) {v : Document}
    (found : field? entries field.name = some v) :
    next? ⟨.fields form, room, .mapping entries⟩ (.name field.name) =
      some ⟨field.role, room.insideForm form, v⟩ := by
  simp [next?, Form.field?_name isField, found]

theorem isBelow_of_mem_field {field : Field} {read : Document → List Detail} {d : Detail}
    (h : d ∈ field.details read entries) : d.IsBelow (.name field.name) := by
  rw [Field.details] at h
  split at h
  · exact isBelow_of_mem_map_under h
  · split at h
    · obtain rfl := List.mem_singleton.1 h
      exact ⟨[], rfl⟩
    · cases h

theorem accounts_field {field : Field} (isField : field ∈ form.fields)
    {read : Document → List Detail}
    (inner : ∀ v, field? entries field.name = some v →
      Accounts ⟨field.role, room.insideForm form, v⟩ (read v)) :
    Accounts ⟨.fields form, room, .mapping entries⟩ (field.details read entries) := by
  rw [Field.details]
  split
  · rename_i v found
    exact (inner v found).map_under (next?_field isField found)
  · rename_i absent
    split
    · rename_i isRequired
      refine ⟨areApart_singleton _, fun d member ↦ ?_⟩
      obtain rfl := List.mem_singleton.1 member
      exact ⟨[], form, room, entries, field, isField, isRequired, rfl, rfl,
        field?_eq_none_iff.1 absent⟩
    · exact accounts_nil _

/-- The fields of a mapping and its unknown keys lie below different names. -/
theorem accounts_parts (areTexts : ∀ entry ∈ entries, ∃ s, entry.1 = .text s)
    (distinct : (entries.map Prod.fst).Nodup)
    (inner : ∀ field ∈ form.fields, ∀ v, field? entries field.name = some v →
      Accounts ⟨field.role, room.insideForm form, v⟩
        (details ⟨field.role, room.insideForm form, v⟩)) :
    Accounts ⟨.fields form, room, .mapping entries⟩ (form.partDetails room entries) := by
  have ofField : ∀ field ∈ form.fields, Accounts ⟨.fields form, room, .mapping entries⟩
      (field.details (fun v ↦ details ⟨field.role, room.insideForm form, v⟩) entries) :=
    fun field isField ↦ accounts_field isField (inner field isField)
  refine ⟨?_, fun d member ↦ ?_⟩
  · refine AreApart.append ?_ (areApart_unknownKeys areTexts distinct) ?_
    · refine areApart_flatMap (fun field ↦ .name field.name) ?_
        (fun field isField ↦ (ofField field isField).apart)
        fun field _ d inField ↦ isBelow_of_mem_field inField
      have asSteps := form.nodup_map_name.map (f := fun name : String ↦ Step.name name)
        fun a b same ↦ Text.ofString_injective (Step.name.inj same)
      rwa [List.map_map] at asSteps
    · intro d isOfField e isUnknown
      obtain ⟨field, isField, inField⟩ := List.mem_flatMap.1 isOfField
      obtain ⟨key, rfl, -, undeclared⟩ := mem_unknownKeys areTexts isUnknown
      refine (isBelow_of_mem_field inField).place_ne ⟨[], rfl⟩ ?_
      intro same
      exact undeclared field.name (Form.name_mem_names isField) (Step.name.inj same).symm
  · rcases List.mem_append.1 member with isOfField | isUnknown
    · obtain ⟨field, isField, inField⟩ := List.mem_flatMap.1 isOfField
      exact (ofField field isField).justified d inField
    · obtain ⟨key, rfl, present, undeclared⟩ := mem_unknownKeys areTexts isUnknown
      exact ⟨[], form, room, entries, key, rfl, rfl, present, undeclared⟩

end fields

/-! ### Culprits -/

section culprits

variable {room : Room} {v : Document}

theorem isCulprit_tooDeep {form : Form} (isFull : room.holdsForm form = false) :
    IsCulprit ⟨.fields form, room, v⟩ := by
  intro x _ acceptable
  cases form with
  | level =>
    obtain ⟨level, -, fits⟩ := acceptable
    have isModel : Form.level.model? = some .level := rfl
    rw [Room.holdsForm, isModel] at isFull
    simp only [Room.holds, decide_eq_false_iff_not] at isFull
    rw [FitsLevel] at fits
    exact isFull (Nat.le_trans (Nat.le_add_right _ _) fits)
  | variant kind =>
    obtain ⟨d, -, rfl, fits⟩ := acceptable
    rw [Fits] at fits
    rw [Room.holdsForm, Form.model?] at isFull
    cases isModel : Model.ofKind? d.variant with
    | none =>
      rw [depth_of_leaf isModel] at fits
      simp only [isModel, Room.holdsLeaf, decide_eq_false_iff_not] at isFull
      exact isFull fits
    | some model =>
      simp only [isModel, Room.holds, decide_eq_false_iff_not] at isFull
      exact isFull (Nat.le_trans (weight_le_depth isModel _) fits)

theorem exists_entries_of_sameOutline {entries : List Entry}
    (same : SameOutline (.mapping entries) v) :
    ∃ others, v = .mapping others ∧ entries.map Prod.fst = others.map Prod.fst ∧
      field? entries "kind" = field? others "kind" := by
  cases same with
  | same => exact ⟨entries, rfl, rfl, rfl⟩
  | mapping keys kind => exact ⟨_, rfl, keys, kind⟩

theorem ne_mapping_of_sameOutline {x : Document} (notMapping : ∀ entries, v ≠ .mapping entries)
    (same : SameOutline v x) (entries : List Entry) : x ≠ .mapping entries := by
  cases same with
  | same => exact notMapping entries
  | list => exact Document.noConfusion
  | mapping => exact absurd rfl (notMapping _)

theorem ne_list_of_sameOutline {x : Document} (notList : ∀ items, v ≠ .list items)
    (same : SameOutline v x) (items : List Document) : x ≠ .list items := by
  cases same with
  | same => exact notList items
  | list => exact absurd rfl (notList _)
  | mapping => exact Document.noConfusion

theorem isCulprit_brokenKey {form : Form} {entries : List Entry}
    (isBroken : hasBrokenKey entries = true) :
    IsCulprit ⟨.fields form, room, .mapping entries⟩ := by
  intro x same acceptable
  obtain ⟨others, rfl, keys, -⟩ := exists_entries_of_sameOutline same
  have sameBroken : hasBrokenKey entries = hasBrokenKey others :=
    hasBrokenKey_eq_of_mem_iff fun key ↦ by rw [keys]
  rw [sameBroken] at isBroken
  have isWhole : hasBrokenKey others = false := by
    cases form with
    | level =>
      obtain ⟨level, describes, -⟩ := acceptable
      cases describes with
      | bare keys | generic keys => exact keys.hasBrokenKey_eq_false
    | variant kind =>
      obtain ⟨d, describes, -⟩ := acceptable
      have isMapping := (describesArgument_iff_describes (by simp [text])).1 describes
      obtain ⟨_, ⟨⟩, -, keys⟩ := isMapping.exists_isModel
      exact keys.hasBrokenKey_eq_false
  rw [isWhole] at isBroken
  cases isBroken

theorem isCulprit_notMapping {role : Role} (asks : role = .descriptor ∨ role = .fields .level)
    (notMapping : ∀ entries, v ≠ .mapping entries) : IsCulprit ⟨role, room, v⟩ := by
  intro x same acceptable
  have isOther := ne_mapping_of_sameOutline notMapping same
  rcases asks with rfl | rfl
  · obtain ⟨d, describes, -⟩ := acceptable
    obtain ⟨entries, isMapping, -⟩ := describes.exists_isModel
    exact isOther entries isMapping
  · obtain ⟨level, describes, -⟩ := acceptable
    generalize isValue : Position.value _ = w at describes
    cases describes with
    | bare | generic => exact isOther _ isValue

theorem isCulprit_unknownKind {entries : List Entry}
    (unknown : Document.variant? (field? entries "kind") = none) :
    IsCulprit ⟨.descriptor, room, .mapping entries⟩ := by
  intro x same acceptable
  obtain ⟨others, rfl, -, kind⟩ := exists_entries_of_sameOutline same
  obtain ⟨d, describes, -⟩ := acceptable
  obtain ⟨_, ⟨⟩, label, -⟩ := describes.exists_isModel
  rw [kind, label, Document.variant?_label] at unknown
  cases unknown

theorem isCulprit_notList {role : Role} (asks : role.ofItem?.isSome = true)
    (notList : ∀ items, v ≠ .list items) : IsCulprit ⟨role, room, v⟩ := by
  intro x same acceptable
  have isOther := ne_list_of_sameOutline notList same
  cases role with
  | levels =>
    obtain ⟨items, _, isList, -⟩ := acceptable
    exact isOther items isList
  | arguments =>
    obtain ⟨items, _, isList, -⟩ := acceptable
    exact isOther items isList
  | segments =>
    obtain ⟨segments, isList⟩ := acceptable
    exact isOther _ isList
  | _ => cases asks

end culprits

/-! ### Plain values -/

/-- The value is valid, or there is one fault, which is in the value itself. -/
def IsSingle {α : Type} (x : Checked α) : Prop :=
  (∃ a, x = .ok a) ∨ ∃ fault, Fault.isOfValue fault = true ∧ x = fail fault

section plain

variable {α : Type}

@[simp] theorem isSingle_ok (a : α) : IsSingle (.ok a : Checked α) := .inl ⟨a, rfl⟩

@[simp] theorem isSingle_fail_iff {fault : Fault} :
    IsSingle (fail fault : Checked α) ↔ fault.isOfValue = true := by
  constructor
  · rintro (⟨a, isValid⟩ | ⟨other, ofValue, same⟩)
    · exact absurd isValid fail_ne_ok
    · simp only [fail, Except.error.injEq, List.cons.injEq, Detail.mk.injEq, true_and,
        and_true] at same
      exact same ▸ ofValue
  · exact fun ofValue ↦ .inr ⟨fault, ofValue, rfl⟩

theorem isSingle_fromText {read : List Char → Checked α} (each : ∀ cs, IsSingle (read cs))
    (s : Text) : IsSingle (Conversion.fromText read s) := by
  unfold Conversion.fromText
  split
  · apply each
  · simp [Fault.isOfValue]

theorem isSingle_text (v : Document) : IsSingle (Conversion.text v) := by
  unfold Conversion.text
  repeat' split
  all_goals simp [Fault.isOfValue]

theorem isSingle_primitive (v : Document) : IsSingle (Conversion.primitive v) := by
  have chars : ∀ cs, IsSingle (Conversion.primitiveFromChars cs) := by
    intro cs
    unfold Conversion.primitiveFromChars
    split <;> simp [Fault.isOfValue]
  unfold Conversion.primitive
  split
  · exact isSingle_fromText chars _
  · simp [Fault.isOfValue]

theorem isSingle_integer (v : Document) : IsSingle (Conversion.integer v) := by
  have chars : ∀ cs, IsSingle (Conversion.integerFromChars cs) := by
    intro cs
    unfold Conversion.integerFromChars
    split <;> simp [Fault.isOfValue]
  unfold Conversion.integer
  repeat' split
  all_goals simp [isSingle_fromText, chars, Fault.isOfValue]

theorem isSingle_rank (v : Document) : IsSingle (Conversion.rank v) := by
  have single := isSingle_integer v
  unfold Conversion.rank
  split
  · split <;> simp [Fault.isOfValue]
  · rename_i details refused
    rw [refused] at single
    rcases single with ⟨n, isValid⟩ | ⟨fault, ofValue, same⟩
    · cases isValid
    · exact .inr ⟨fault, ofValue, congrArg _ (Except.error.inj same)⟩

theorem isSingle_flag (v : Document) : IsSingle (Conversion.flag v) := by
  have chars : ∀ cs, IsSingle (Conversion.flagFromChars cs) := by
    intro cs
    unfold Conversion.flagFromChars
    split <;> simp [Fault.isOfValue]
  have number : ∀ n, IsSingle (Conversion.flagFromInteger n) := by
    intro n
    unfold Conversion.flagFromInteger
    repeat' split
    all_goals simp [Fault.isOfValue]
  unfold Conversion.flag
  repeat' split
  all_goals simp [isSingle_fromText, chars, number, Fault.isOfValue]

theorem isSingle_flag? (v : Document) : IsSingle (Conversion.flag? v) := by
  have single := isSingle_flag v
  unfold Conversion.flag?
  split
  · simp
  · split
    · simp
    · rename_i details refused
      rw [refused] at single
      rcases single with ⟨b, isValid⟩ | ⟨fault, ofValue, same⟩
      · cases isValid
      · exact .inr ⟨fault, ofValue, congrArg _ (Except.error.inj same)⟩

theorem isSingle_wellKnown? (v : Document) : IsSingle (Conversion.wellKnown? v) := by
  have chars : ∀ cs, IsSingle (Conversion.wellKnownFromChars cs) := by
    intro cs
    unfold Conversion.wellKnownFromChars
    split <;> simp [Fault.isOfValue]
  unfold Conversion.wellKnown?
  split
  · simp
  · exact isSingle_fromText chars _
  · simp [Fault.isOfValue]

theorem accounts_read {p : Position} {x : Checked α} (single : IsSingle x)
    (culprit : (∀ a, x ≠ .ok a) → p.IsCulprit) : p.Accounts x.details := by
  rcases single with ⟨a, rfl⟩ | ⟨fault, ofValue, rfl⟩
  · exact accounts_nil p
  · exact accounts_here (culprit fun a ↦ fail_ne_ok) ofValue

end plain

/-- A plain value has no parts. -/
theorem isCulprit_plain {role : Role} {room : Room} {v : Document}
    (noList : ∀ items, ¬ IsAcceptable ⟨role, room, .list items⟩)
    (noMapping : ∀ entries, ¬ IsAcceptable ⟨role, room, .mapping entries⟩)
    (refused : ¬ IsAcceptable ⟨role, room, v⟩) : IsCulprit ⟨role, room, v⟩ := by
  intro x same
  cases same with
  | same => exact refused
  | list _ others => exact noList others
  | mapping => exact noMapping _

theorem accounts_plain {role : Role} {room : Room} {v : Document} (json : IsJson v)
    (isOutline : role.expected = .outline) :
    Accounts ⟨role, room, v⟩ (details ⟨role, room, v⟩) := by
  have notArgument : role ≠ .argument := by
    rintro rfl
    cases isOutline
  rw [details_eq notArgument, isOutline, bounded_outline]
  cases role with
  | fields form => cases form <;> cases isOutline
  | descriptor | argument | levels | arguments | segments => cases isOutline
  | unread => exact accounts_nil _
  | keyword =>
    refine accounts_read (isSingle_primitive v) fun refused ↦ isCulprit_plain ?_ ?_ ?_
    · rintro items ⟨type, ⟨⟩⟩
    · rintro entries ⟨type, ⟨⟩⟩
    · rintro ⟨type, isType⟩
      exact refused type ((primitive_eq_ok_iff json).2 isType)
  | name =>
    refine accounts_read (isSingle_text v) fun refused ↦ isCulprit_plain ?_ ?_ ?_
    · rintro items ⟨s, ⟨⟩⟩
    · rintro entries ⟨s, ⟨⟩⟩
    · rintro ⟨s, isText⟩
      exact refused s ((text_eq_ok_iff json).2 isText)
  | rank =>
    refine accounts_read (isSingle_rank v) fun refused ↦ isCulprit_plain ?_ ?_ ?_
    · rintro items ⟨n, ⟨⟩, -⟩
    · rintro entries ⟨n, ⟨⟩, -⟩
    · rintro ⟨n, isRank⟩
      exact refused n ((rank_eq_ok_iff json).2 isRank)
  | flag =>
    refine accounts_read (isSingle_flag v) fun refused ↦ isCulprit_plain ?_ ?_ ?_
    · rintro items ⟨b, ⟨⟩⟩
    · rintro entries ⟨b, ⟨⟩⟩
    · rintro ⟨b, isFlag⟩
      exact refused b ((flag_eq_ok_iff json).2 isFlag)
  | optionalFlag =>
    refine accounts_read (isSingle_flag? v) fun refused ↦ isCulprit_plain ?_ ?_ ?_
    · rintro items ⟨_, stands⟩
      cases stands with
      | known isFlag => cases isFlag
    · rintro entries ⟨_, stands⟩
      cases stands with
      | known isFlag => cases isFlag
    · rintro ⟨flag, isFlag⟩
      exact refused flag ((flag?_eq_ok_iff json).2 isFlag)
  | tag =>
    refine accounts_read (isSingle_wellKnown? v) fun refused ↦ isCulprit_plain ?_ ?_ ?_
    · rintro items ⟨tag, ⟨⟩⟩
    · rintro entries ⟨tag, ⟨⟩⟩
    · rintro ⟨tag, isTag⟩
      exact refused tag ((wellKnown?_eq_ok_iff json).2 isTag)

end Position
end TypeDisplay
