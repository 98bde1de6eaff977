import TypeDisplay.Proofs.DocumentShape
import TypeDisplay.Proofs.Grammar

/-!
# Accepted fields

What a field of a JSON document is read as is what the grammar says its value stands for.  A mapping
is read as a descriptor when it names a variant, has no other keys than its fields, and each of
these is read.
-/

namespace TypeDisplay

namespace Checked

variable {α β : Type}

theorem within_eq_ok_iff {step : Step} {x : Checked α} {a : α} :
    x.within step = .ok a ↔ x = .ok a := by
  cases x <;> simp [within]

theorem both_eq_ok_iff {x : Checked α} {y : Checked β} {a : α} {b : β} :
    both x y = .ok (a, b) ↔ x = .ok a ∧ y = .ok b := by
  cases x <;> cases y <;> simp [both]

theorem provided_eq_ok_iff {x : Checked α} {others : List Detail} {a : α} :
    provided x others = .ok a ↔ x = .ok a ∧ others = [] := by
  cases x <;> cases others <;> simp [provided]

theorem fail_ne_ok {fault : Fault} {a : α} : fail fault ≠ .ok a := by
  simp [fail]

end Checked

namespace Descriptor

open Checked
open Document (Entry field? text IsJson)

/-! ### Values of fields -/

theorem text_eq_ok_iff {v : Document} (json : IsJson v) {name : Text} :
    Conversion.text v = .ok name ↔ v = text name := by
  cases json <;> simp [Conversion.text, Document.null, Document.bool, Document.int,
    Document.float, text, fail]

theorem fromText_eq_ok_iff {α : Type} {read : List Char → Checked α} {s : Text} {a : α} :
    Conversion.fromText read s = .ok a ↔ ∃ cs, s = .ofChars cs ∧ read cs = .ok a := by
  rw [Conversion.fromText]
  cases chars : s.chars? with
  | none =>
    constructor
    · intro h
      exact absurd h fail_ne_ok
    · rintro ⟨cs, rfl, -⟩
      simp [Text.chars?_ofChars] at chars
  | some cs =>
    obtain rfl := Text.chars?_eq_some_iff.1 chars
    constructor
    · intro h
      exact ⟨cs, rfl, h⟩
    · rintro ⟨cs', same, h⟩
      have sameChars := congrArg Text.chars? same
      rw [Text.chars?_ofChars, Text.chars?_ofChars] at sameChars
      exact Option.some.inj sameChars ▸ h

theorem integer_eq_ok_iff {v : Document} (json : IsJson v) {n : Int} :
    Conversion.integer v = .ok n ↔ StandsForInteger v n := by
  constructor
  · intro h
    cases json with
    | null | list _ | mapping _ _ => exact absurd h fail_ne_ok
    | bool b =>
      obtain rfl := Except.ok.inj h
      exact .bool b
    | int m =>
      obtain rfl := Except.ok.inj h
      exact .int m
    | float x =>
      simp only [Document.float, Conversion.integer] at h
      split at h
      · rename_i m isIntegral
        split at h
        · rename_i fits
          obtain rfl := Except.ok.inj h
          exact .float isIntegral fits
        · exact absurd h fail_ne_ok
      · exact absurd h fail_ne_ok
    | text s =>
      obtain ⟨cs, rfl, reads⟩ := fromText_eq_ok_iff.1 h
      rw [Conversion.integerFromChars] at reads
      split at reads
      · rename_i m isNumeral
        obtain rfl := Except.ok.inj reads
        exact .numeral isNumeral
      · exact absurd reads fail_ne_ok
      · exact absurd reads fail_ne_ok
  · intro h
    cases h with
    | int n => rfl
    | bool b => rfl
    | float isIntegral fits => simp [Document.float, Conversion.integer, isIntegral, fits]
    | numeral reads =>
      refine fromText_eq_ok_iff.2 ⟨_, rfl, ?_⟩
      simp [Conversion.integerFromChars, reads]

theorem rank_eq_ok_iff {v : Document} (json : IsJson v) {n : Int} :
    Conversion.rank v = .ok n ↔ IsRank v n := by
  rw [IsRank, ← integer_eq_ok_iff json, Conversion.rank]
  cases Conversion.integer v with
  | error details => simp
  | ok m =>
    by_cases positive : 1 ≤ m
    · simp only [positive, if_true, Except.ok.injEq]
      constructor
      · rintro rfl
        exact ⟨rfl, positive⟩
      · exact And.left
    · simp only [positive, if_false, Except.ok.injEq]
      constructor
      · intro h
        exact absurd h fail_ne_ok
      · rintro ⟨rfl, atLeastOne⟩
        exact absurd atLeastOne positive

theorem flagFromInteger_eq_ok_iff {n : Int} {b : Bool} :
    Conversion.flagFromInteger n = .ok b ↔ n = if b then 1 else 0 := by
  rw [Conversion.flagFromInteger]
  split
  · rename_i isZero
    cases b <;> simp [isZero]
  · split
    · rename_i isOne
      cases b <;> simp [isOne]
    · cases b <;> simp_all [fail]

theorem flag_eq_ok_iff {v : Document} (json : IsJson v) {b : Bool} :
    Conversion.flag v = .ok b ↔ StandsForFlag v b := by
  constructor
  · intro h
    cases json with
    | null | list _ | mapping _ _ => exact absurd h fail_ne_ok
    | bool c =>
      obtain rfl := Except.ok.inj h
      exact .bool c
    | int m =>
      simp only [Document.int, Conversion.flag] at h
      split at h
      · obtain rfl := flagFromInteger_eq_ok_iff.1 h
        exact .int b
      · exact absurd h fail_ne_ok
    | float x =>
      simp only [Document.float, Conversion.flag] at h
      split at h
      · rename_i m isIntegral
        split at h
        · obtain rfl := flagFromInteger_eq_ok_iff.1 h
          exact .float isIntegral
        · exact absurd h fail_ne_ok
      · exact absurd h fail_ne_ok
    | text s =>
      obtain ⟨cs, rfl, reads⟩ := fromText_eq_ok_iff.1 h
      rw [Conversion.flagFromChars] at reads
      split at reads
      · rename_i c isWord
        obtain rfl := Except.ok.inj reads
        exact .word isWord
      · exact absurd reads fail_ne_ok
  · intro h
    cases h with
    | bool b => rfl
    | int b => cases b <;> rfl
    | @float x b isIntegral =>
      have fits : Conversion.fitsFloat (if b then 1 else 0) = true := by cases b <;> decide
      simp only [Document.float, Conversion.flag, isIntegral, fits, if_true]
      exact flagFromInteger_eq_ok_iff.2 rfl
    | word reads =>
      refine fromText_eq_ok_iff.2 ⟨_, rfl, ?_⟩
      simp [Conversion.flagFromChars, reads]

theorem flag?_eq_ok_iff {v : Document} (json : IsJson v) {flag : Option Bool} :
    Conversion.flag? v = .ok flag ↔ StandsForFlag? v flag := by
  by_cases isNull : v = .null
  · subst isNull
    constructor
    · intro h
      obtain rfl := Except.ok.inj h
      exact .unknown
    · intro h
      cases h with
      | unknown => rfl
      | known isFlag => cases isFlag
  · have other : Conversion.flag? v = (Conversion.flag v).map some := by
      rw [Conversion.flag?]
      · cases Conversion.flag v <;> rfl
      · exact isNull
    rw [other, except_map_eq_ok_iff]
    constructor
    · rintro ⟨b, reads, rfl⟩
      exact .known ((flag_eq_ok_iff json).1 reads)
    · intro h
      cases h with
      | unknown => exact absurd rfl isNull
      | known isFlag => exact ⟨_, (flag_eq_ok_iff json).2 isFlag, rfl⟩

theorem wellKnown?_eq_ok_iff {v : Document} (json : IsJson v) {wellKnown : Option WellKnown} :
    Conversion.wellKnown? v = .ok wellKnown ↔ IsTag v wellKnown := by
  constructor
  · intro h
    cases json with
    | bool _ | int _ | float _ | list _ | mapping _ _ => exact absurd h fail_ne_ok
    | null =>
      obtain rfl := Except.ok.inj h
      exact .untagged
    | text s =>
      obtain ⟨cs, rfl, reads⟩ := fromText_eq_ok_iff.1 h
      rw [Conversion.wellKnownFromChars] at reads
      split at reads
      · rename_i isIdentity
        obtain rfl := Except.ok.inj reads
        have isText : Text.ofChars cs = WellKnown.nullable.identity := by
          rw [← isIdentity, Text.ofString, String.toList_ofList]
        rw [isText]
        exact .tagged
      · exact absurd reads fail_ne_ok
  · intro h
    cases h with
    | untagged => rfl
    | tagged => exact @wellKnown?_of_reordered (some .nullable) _ rfl

theorem primitive_eq_ok_iff {v : Document} (json : IsJson v) {type : Primitive} :
    Conversion.primitive v = .ok type ↔ v = text type.keyword := by
  constructor
  · intro h
    cases json with
    | null | bool _ | int _ | float _ | list _ | mapping _ _ => exact absurd h fail_ne_ok
    | text s =>
      obtain ⟨cs, rfl, reads⟩ := fromText_eq_ok_iff.1 h
      rw [Conversion.primitiveFromChars] at reads
      split at reads
      · rename_i p isKeyword
        obtain rfl := Except.ok.inj reads
        have isText : Text.ofChars cs = p.keyword := by
          rw [← Primitive.ofKeyword?_eq_some_iff.1 isKeyword, Text.ofString, String.toList_ofList]
        rw [isText]
      · exact absurd reads fail_ne_ok
  · rintro rfl
    exact primitive_keyword type

theorem texts_eq_ok_iff {items : List Document} (json : ∀ x ∈ items, IsJson x) {index : Nat}
    {names : List Text} :
    Conversion.texts index items = .ok names ↔ items = names.map text := by
  refine ⟨fun h ↦ ?_, fun h ↦ h ▸ texts_map_text index names⟩
  induction items generalizing index names with
  | nil =>
    obtain rfl := Except.ok.inj h
    rfl
  | cons item items ih =>
    rw [Conversion.texts] at h
    split at h
    · rename_i s others both
      obtain rfl := Except.ok.inj h
      obtain ⟨first, rest⟩ := both_eq_ok_iff.1 both
      have isText := (text_eq_ok_iff (json item (by simp))).1 (within_eq_ok_iff.1 first)
      have areTexts := ih (fun x member ↦ json x (by simp [member])) rest
      rw [isText, areTexts, List.map_cons]
    · cases h

theorem segments_eq_ok_iff {v : Document} (json : IsJson v) {segments : List Text} :
    Conversion.segments v = .ok segments ↔ IsNamespace v segments := by
  cases json with
  | list each =>
    rw [IsNamespace, Document.list.injEq]
    exact texts_eq_ok_iff each
  | null | bool _ | int _ | float _ | text _ | mapping _ _ =>
    constructor
    · intro h
      exact absurd h fail_ne_ok
    · intro h
      cases h

/-! ### Models -/

section models

variable {entries : List Entry} {names : List String}

theorem keyDetail?_eq_none_iff {key : Scalar} :
    keyDetail? names key = none ↔ ∃ name ∈ names, key = .text (.ofString name) := by
  cases key with
  | text s =>
    cases known : s.string? with
    | none =>
      have notName : ∀ name ∈ names, s ≠ Text.ofString name := by
        rintro name - rfl
        simp [Text.string?_ofString] at known
      simpa [keyDetail?, known] using notName
    | some word =>
      obtain rfl := Text.string?_eq_some_iff.1 known
      constructor
      · intro h
        exact ⟨word, by simpa [keyDetail?, known] using h, rfl⟩
      · rintro ⟨name, isName, same⟩
        obtain rfl := Text.ofString_injective (Scalar.text.inj same)
        simp [keyDetail?, known, isName]
  | null | bool _ | int _ | float _ | bytes _ | date _ | moment _ => simp [keyDetail?]

theorem unknownKeys_eq_nil_iff : unknownKeys names entries = [] ↔ HasOnly names entries := by
  simp only [unknownKeys, List.filterMap_eq_nil_iff, keyDetail?_eq_none_iff, HasOnly]

theorem HasOnly.hasBrokenKey_eq_false (h : HasOnly names entries) :
    hasBrokenKey entries = false := by
  rw [hasBrokenKey, List.any_eq_false]
  intro entry member
  obtain ⟨name, -, isName⟩ := h entry member
  simp [isName, isBroken, Text.string?_ofString]

theorem variant?_eq_some_iff {label : Document} {kind : Kind} :
    Document.variant? (some label) = some kind ↔ label = text kind.label := by
  refine ⟨fun h ↦ ?_, fun h ↦ h ▸ Document.variant?_label kind⟩
  cases label with
  | scalar s =>
    obtain ⟨word, isWord, isLabel⟩ := Option.bind_eq_some_iff.1 h
    cases s with
    | text s =>
      obtain rfl := Text.string?_eq_some_iff.1 isWord
      have found := List.find?_some isLabel
      obtain rfl : kind.label = word := by simpa using found
      rfl
    | null | bool _ | int _ | float _ | bytes _ | date _ | moment _ => cases isWord
  | _ => cases h

theorem plainField_eq_ok_iff {α : Type} {name : String} {absent : α}
    {read : Document → Checked α} {a : α} :
    plainField entries name (.ok absent) read = .ok a ↔
      HasField entries name absent (fun v b ↦ read v = .ok b) a := by
  rw [plainField, HasField]
  cases field? entries name with
  | none => simp [eq_comm]
  | some v => simp [within_eq_ok_iff]

theorem requiredField_eq_ok_iff {α : Type} {name : String} {read : Document → Checked α} {a : α} :
    plainField entries name (missing name) read = .ok a ↔
      ∃ v, field? entries name = some v ∧ read v = .ok a := by
  rw [plainField]
  cases field? entries name with
  | none => simp [missing]
  | some v => simp [within_eq_ok_iff]

/-- The fields of a mapping are read as those of a descriptor. -/
def HasFields (entries : List Entry) : Descriptor → Prop
  | primitive type =>
      ∃ v, field? entries "primitive" = some v ∧ Conversion.primitive v = .ok type
  | void => True
  | parameter name => ∃ v, field? entries "name" = some v ∧ Conversion.text v = .ok name
  | named segments levels valueType wellKnown =>
      HasField entries "namespace" [] (fun v s ↦ Conversion.segments v = .ok s) segments ∧
        (∃ v, field? entries "levels" = some v ∧ levelsOfDocument v = .ok levels) ∧
        HasField entries "value_type" none (fun v f ↦ Conversion.flag? v = .ok f) valueType ∧
        HasField entries "well_known" none (fun v w ↦ Conversion.wellKnown? v = .ok w) wellKnown
  | array element rank multiDimensional =>
      (∃ v, field? entries "element_type" = some v ∧ ofDocument v = .ok element) ∧
        HasField entries "rank" 1 (fun v n ↦ Conversion.rank v = .ok n) rank ∧
        HasField entries "multi_dimensional" false (fun v b ↦ Conversion.flag v = .ok b)
          multiDimensional
  | pointer pointee => ∃ v, field? entries "pointee" = some v ∧ ofDocument v = .ok pointee
  | nullable underlying =>
      ∃ v, field? entries "underlying" = some v ∧ ofDocument v = .ok underlying

theorem ofEntries_eq_ok_iff {kind : Kind} {d : Descriptor} :
    ofEntries kind entries = .ok d ↔
      HasOnly ("kind" :: fieldNames kind) entries ∧ d.variant = kind ∧ HasFields entries d := by
  rw [← unknownKeys_eq_nil_iff]
  cases kind with
  | void =>
    rw [ofEntries, provided_eq_ok_iff]
    cases d <;> simp [variant, HasFields]
  | primitive | parameter =>
    rw [ofEntries, provided_eq_ok_iff, except_map_eq_ok_iff]
    simp only [requiredField_eq_ok_iff]
    cases d <;> simp [variant, HasFields, and_comm]
  | pointer =>
    rw [ofEntries_pointer, provided_eq_ok_iff, except_map_eq_ok_iff]
    simp only [requiredField_eq_ok_iff]
    cases d <;> simp [variant, HasFields, and_comm]
  | nullable =>
    rw [ofEntries_nullable, provided_eq_ok_iff, except_map_eq_ok_iff]
    simp only [requiredField_eq_ok_iff]
    cases d <;> simp [variant, HasFields, and_comm]
  | array =>
    rw [ofEntries_array, provided_eq_ok_iff, except_map_eq_ok_iff]
    simp only [Prod.exists, both_eq_ok_iff, plainField_eq_ok_iff, requiredField_eq_ok_iff]
    constructor
    · rintro ⟨⟨element, rank, flag, fields, rfl⟩, keys⟩
      exact ⟨keys, rfl, fields⟩
    · rintro ⟨keys, isArray, fields⟩
      cases d with
      | array element rank flag => exact ⟨⟨element, rank, flag, fields, rfl⟩, keys⟩
      | _ => cases isArray
  | named =>
    rw [ofEntries_named, provided_eq_ok_iff, except_map_eq_ok_iff]
    simp only [Prod.exists, both_eq_ok_iff, plainField_eq_ok_iff, requiredField_eq_ok_iff]
    constructor
    · rintro ⟨⟨segments, levels, flag, tag, fields, rfl⟩, keys⟩
      exact ⟨keys, rfl, fields⟩
    · rintro ⟨keys, isNamed, fields⟩
      cases d with
      | named segments levels flag tag => exact ⟨⟨segments, levels, flag, tag, fields, rfl⟩, keys⟩
      | _ => cases isNamed

theorem ofDocument_mapping_eq_ok_iff {d : Descriptor} :
    ofDocument (.mapping entries) = .ok d ↔ IsModel d.variant entries ∧ HasFields entries d := by
  rw [ofDocument, IsModel]
  cases found : field? entries "kind" with
  | none => simp [fail]
  | some label =>
    cases isVariant : Document.variant? (some label) with
    | none =>
      have unknown : label ≠ text d.variant.label := by
        rintro rfl
        simp [Document.variant?_label] at isVariant
      simp [unknown, isVariant, fail]
    | some kind =>
      obtain rfl := variant?_eq_some_iff.1 isVariant
      simp only [isVariant]
      constructor
      · intro h
        split at h
        · cases h
        · obtain ⟨keys, rfl, fields⟩ := ofEntries_eq_ok_iff.1 (within_eq_ok_iff.1 h)
          exact ⟨⟨rfl, keys⟩, fields⟩
      · rintro ⟨⟨sameLabel, keys⟩, fields⟩
        have known : some kind = some d.variant := by
          rw [← isVariant, sameLabel, Document.variant?_label]
        obtain rfl := Option.some.inj known
        rw [keys.hasBrokenKey_eq_false]
        exact within_eq_ok_iff.2 (ofEntries_eq_ok_iff.2 ⟨keys, rfl, fields⟩)

theorem levelOfDocument_mapping_eq_ok_iff {level : Level Descriptor} :
    levelOfDocument (.mapping entries) = .ok level ↔
      HasOnly levelFieldNames entries ∧
        (∃ v, field? entries "name" = some v ∧ Conversion.text v = .ok level.name) ∧
        HasField entries "type_arguments" [] (fun v as ↦ argumentsOfDocument v = .ok as)
          level.arguments := by
  rw [levelOfDocument_mapping]
  obtain ⟨name, arguments⟩ := level
  constructor
  · intro h
    split at h
    · cases h
    · obtain ⟨areRead, noneUnknown⟩ := provided_eq_ok_iff.1 h
      obtain ⟨⟨n, as⟩, both, same⟩ := except_map_eq_ok_iff.1 areRead
      obtain ⟨rfl, rfl⟩ := Level.mk.inj same
      obtain ⟨isName, areArguments⟩ := both_eq_ok_iff.1 both
      exact ⟨unknownKeys_eq_nil_iff.1 noneUnknown, requiredField_eq_ok_iff.1 isName,
        plainField_eq_ok_iff.1 areArguments⟩
  · rintro ⟨keys, isName, areArguments⟩
    rw [keys.hasBrokenKey_eq_false, unknownKeys_eq_nil_iff.2 keys, requiredField_eq_ok_iff.2 isName,
      plainField_eq_ok_iff.2 areArguments]
    rfl

end models

end Descriptor
end TypeDisplay
