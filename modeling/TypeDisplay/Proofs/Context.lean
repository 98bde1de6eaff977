import TypeDisplay.Proofs.WithinDepth

/-!
# Documents in context

A context is a document with a place left open at which validation reads a descriptor.  What is
wrong with the filled context is what is wrong around the place and, moved to the place, what is
wrong with the filler.  The parts around it know of the filler in one respect only: a list of levels
is found to lack levels when none of its items is valid.

A context is given by its frames from the place outwards, one for each step of validation, so one
lemma about a frame carries over to contexts of any depth.
-/

namespace TypeDisplay
namespace Descriptor

open Checked
open Document (Entry field? text)

/-! ### Slots -/

/-- The entries of a mapping around the value of a field that validation reaches: it finds the value,
as the key is not there before, and looks at it, as no other key is broken. -/
structure Slot (name : String) where
  before : List Entry
  after : List Entry
  isFirst : ∀ entry ∈ before, entry.1 ≠ .text (.ofString name)
  areWhole : hasBrokenKey (before ++ after) = false

namespace Slot

variable {name : String} (slot : Slot name) (x : Document)

def others : List Entry :=
  slot.before ++ slot.after

def fill : List Entry :=
  slot.before ++ (.text (.ofString name), x) :: slot.after

theorem field?_fill : field? (slot.fill x) name = some x := by
  have notBefore : slot.before.find? (fun entry ↦ entry.1 = .text (.ofString name)) = none := by
    simpa using slot.isFirst
  simp [field?, fill, List.find?_append, notBefore]

theorem field?_fill_of_ne {other : String} (isOther : other ≠ name) :
    field? (slot.fill x) other = field? slot.others other := by
  have otherKey : Text.ofString name ≠ Text.ofString other :=
    fun same ↦ isOther (Text.ofString_injective same).symm
  simp [field?, fill, others, List.find?_append, otherKey]

theorem hasBrokenKey_fill : hasBrokenKey (slot.fill x) = false := by
  have areWhole := slot.areWhole
  rw [hasBrokenKey, List.any_append] at areWhole
  simpa [hasBrokenKey, fill, isBroken, Text.string?_ofString] using areWhole

theorem unknownKeys_fill {known : List String} (isKnown : name ∈ known) :
    unknownKeys known (slot.fill x) = unknownKeys known slot.others := by
  have notReported : keyDetail? known (.text (.ofString name)) = none :=
    keyDetail?_eq_none_iff.2 ⟨name, isKnown, rfl⟩
  simp [unknownKeys, fill, others, List.filterMap_append, notReported]

section

variable {α : Type} (absent : Checked α) (read : Document → Checked α)

theorem plainField_fill : plainField (slot.fill x) name absent read =
    (read x).within (.name name) := by
  rw [plainField, field?_fill]

theorem plainField_fill_of_ne {other : String} (isOther : other ≠ name) :
    plainField (slot.fill x) other absent read = plainField slot.others other absent read := by
  rw [plainField, plainField, field?_fill_of_ne slot x isOther]

end
end Slot

/-! ### Remarks -/

/-- What is said after the details of a part: a detail that is there whatever the part is, or the
lack of levels in a list to which the part belongs. -/
inductive Remark where
  | detail (d : Detail)
  | noLevel (place : List Step) (levels : Document → List Document)

namespace Remark

def details (x : Document) : Remark → List Detail
  | detail d => [d]
  | noLevel place levels => if LacksLevels (levels x) then [⟨place, .noLevel⟩] else []

def under (place : List Step) : Remark → Remark
  | detail d => detail (d.under place)
  | noLevel inner levels => noLevel (place ++ inner) levels

/-- The remark about the part that a smaller part is made into. -/
def after (make : Document → Document) : Remark → Remark
  | detail d => detail d
  | noLevel place levels => noLevel place fun x ↦ levels (make x)

@[simp] theorem details_under (x : Document) (place : List Step) (remark : Remark) :
    (remark.under place).details x = (remark.details x).map (Detail.under place) := by
  cases remark with
  | detail d => rfl
  | noLevel inner levels =>
    rw [under, details, details]
    split <;> simp [Detail.under]

@[simp] theorem details_after (x : Document) (make : Document → Document) (remark : Remark) :
    (remark.after make).details x = remark.details (make x) := by
  cases remark <;> rfl

@[simp] theorem flatMap_details_detail (x : Document) (details : List Detail) :
    (details.map detail).flatMap (Remark.details x) = details := by
  induction details with
  | nil => rfl
  | cons d details ih => rw [List.map_cons, List.flatMap_cons, ih, Remark.details]; rfl

end Remark

/-! ### Layers -/

/-- The field of a variant that holds a single descriptor. -/
def innerField? : Kind → Option String
  | .array => some "element_type"
  | .pointer => some "pointee"
  | .nullable => some "underlying"
  | _ => none

/-- The details of the fields that are read after the inner descriptor. -/
def laterDetails (kind : Kind) (entries : List Entry) : List Detail :=
  match kind with
  | .array =>
      (plainField entries "rank" (.ok 1) Conversion.rank).details ++
        (plainField entries "multi_dimensional" (.ok false) Conversion.flag).details
  | _ => []

/-- A document around a part, with what validation expects of the part and of the document. -/
inductive Frame : Expected → Expected → Type where
  | field {kind : Kind} {name : String} (slot : Slot name) (holds : innerField? kind = some name)
      (label : Document.variant? (field? slot.others "kind") = some kind) :
      Frame .descriptor .descriptor
  | levels (slot : Slot "levels")
      (label : Document.variant? (field? slot.others "kind") = some .named) :
      Frame .levels .descriptor
  | level (before after : List Document) : Frame .level .levels
  | arguments (slot : Slot "type_arguments") : Frame .arguments .level
  | argument (before after : List Document) : Frame .descriptor .arguments

namespace Frame

variable {inner outer : Expected}

def fill (x : Document) : Frame inner outer → Document
  | field slot _ _ => .mapping (slot.fill x)
  | levels slot _ => .mapping (slot.fill x)
  | level before after => .list (before ++ x :: after)
  | arguments slot => .mapping (slot.fill x)
  | argument before after => .list (before ++ x :: after)

def place : Frame inner outer → List Step
  | @field kind name _ _ _ => [.name kind.label, .name name]
  | levels _ _ => [.name Kind.named.label, .name "levels"]
  | level before _ => [.index before.length]
  | arguments _ => [.name "type_arguments"]
  | argument before _ => [.index before.length]

/-- What is said before the details of the part. -/
def opening : Frame inner outer → List Detail
  | field _ _ _ => []
  | levels slot _ =>
      (plainField slot.others "namespace" (.ok []) Conversion.segments).details.map
        (Detail.under [.name Kind.named.label])
  | level before _ => (levelsOfItems 0 before).1
  | arguments slot => (plainField slot.others "name" (missing "name") Conversion.text).details
  | argument before _ => (argumentsOfItems 0 before).details

/-- What is said after the details of the part. -/
def closing : Frame inner outer → List Remark
  | @field kind _ slot _ _ =>
      ((laterDetails kind slot.others ++
        unknownKeys ("kind" :: fieldNames kind) slot.others).map
          (Detail.under [.name kind.label])).map .detail
  | levels slot _ =>
      (((plainField slot.others "value_type" (.ok none) Conversion.flag?).details ++
        (plainField slot.others "well_known" (.ok none) Conversion.wellKnown?).details ++
          unknownKeys ("kind" :: fieldNames .named) slot.others).map
            (Detail.under [.name Kind.named.label])).map .detail
  | level before after =>
      (levelsOfItems (before.length + 1) after).1.map .detail ++
        [.noLevel [] fun x ↦ before ++ x :: after]
  | arguments slot => (unknownKeys levelFieldNames slot.others).map .detail
  | argument before after => (argumentsOfItems (before.length + 1) after).details.map .detail

/-- Among type arguments a text is the name of a parameter and not a document to be read. -/
def Takes (x : Document) : Frame inner outer → Prop
  | argument _ _ => ∀ name, x ≠ .text name
  | _ => True

theorem detailsAt_fill (frame : Frame inner outer) {x : Document} (takes : frame.Takes x) :
    detailsAt outer (frame.fill x) =
      frame.opening ++ (detailsAt inner x).map (Detail.under frame.place) ++
        frame.closing.flatMap (Remark.details x) := by
  cases frame with
  | @field kind name slot holds label =>
    have isOther : "kind" ≠ name := by
      rintro rfl
      cases kind <;> simp [innerField?] at holds
    have isKnown : name ∈ "kind" :: fieldNames kind := by
      cases kind <;> cases holds <;> simp [fieldNames]
    rw [← slot.field?_fill_of_ne x isOther] at label
    rw [fill, detailsAt, details_ofDocument_mapping label, slot.hasBrokenKey_fill, place, opening,
      closing, Remark.flatMap_details_detail, ← slot.unknownKeys_fill x isKnown]
    cases kind with
    | array =>
      obtain rfl := Option.some.inj holds
      rw [ofEntries_array]
      simp [slot.plainField_fill, slot.plainField_fill_of_ne x, laterDetails, detailsAt]
    | pointer =>
      obtain rfl := Option.some.inj holds
      rw [ofEntries_pointer]
      simp [slot.plainField_fill, laterDetails, detailsAt]
    | nullable =>
      obtain rfl := Option.some.inj holds
      rw [ofEntries_nullable]
      simp [slot.plainField_fill, laterDetails, detailsAt]
    | _ => cases holds
  | levels slot label =>
    have isOther : "kind" ≠ "levels" := by decide
    have isKnown : "levels" ∈ "kind" :: fieldNames .named := by simp [fieldNames]
    rw [← slot.field?_fill_of_ne x isOther] at label
    rw [fill, detailsAt, details_ofDocument_mapping label, slot.hasBrokenKey_fill, place, opening,
      closing, Remark.flatMap_details_detail, ← slot.unknownKeys_fill x isKnown, ofEntries_named]
    simp [slot.plainField_fill, slot.plainField_fill_of_ne x, detailsAt]
  | level before after =>
    simp only [fill, detailsAt, details_levelsOfDocument_list, details_levelsOfItems_append,
      details_levelsOfItems_cons, opening, closing, place, List.flatMap_append,
      Remark.flatMap_details_detail, Nat.zero_add]
    simp [Remark.details]
  | arguments slot =>
    have isOther : "name" ≠ "type_arguments" := by decide
    have isKnown : "type_arguments" ∈ levelFieldNames := by simp [levelFieldNames]
    simp only [fill, detailsAt, details_levelOfDocument_mapping, slot.hasBrokenKey_fill,
      slot.plainField_fill, slot.plainField_fill_of_ne x _ _ isOther, opening, closing, place]
    simp [slot.unknownKeys_fill x isKnown]
  | argument before after =>
    simp only [fill, detailsAt, argumentsOfDocument, details_argumentsOfItems_append,
      details_argumentsOfItems_cons takes, opening, closing, place, Nat.zero_add]
    simp

theorem takes_of_ne_text (frame : Frame inner outer) {x : Document}
    (noText : ∀ name, x ≠ .text name) : frame.Takes x := by
  cases frame with
  | argument before after => exact noText
  | _ => trivial

theorem fill_ne_text (frame : Frame inner outer) (x : Document) (name : Text) :
    frame.fill x ≠ .text name := by
  cases frame <;> simp [fill, Document.text]

/-- Nothing is wrong with a frame around a valid part when nothing is wrong around another. -/
theorem detailsAt_fill_eq_nil (frame : Frame inner outer) {x y : Document}
    (takes : frame.Takes x) (takesOther : frame.Takes y) (valid : detailsAt inner x = [])
    (around : detailsAt outer (frame.fill y) = []) : detailsAt outer (frame.fill x) = [] := by
  rw [detailsAt_fill frame takesOther, List.append_eq_nil_iff, List.append_eq_nil_iff] at around
  obtain ⟨⟨opens, -⟩, closes⟩ := around
  rw [detailsAt_fill frame takes, opens, valid, List.map_nil, List.append_nil, List.nil_append]
  cases frame with
  | level before after =>
    -- The part is a valid level, so there is one.
    have someLevel : ¬ LacksLevels (before ++ x :: after) := by
      intro lacks
      obtain ⟨level, isLevel⟩ := (isTold_levelOfDocument x).details_eq_nil_iff.1 valid
      exact lacks x (by simp) level isLevel
    simp only [closing, List.flatMap_append, Remark.flatMap_details_detail,
      List.append_eq_nil_iff] at closes ⊢
    refine ⟨closes.1, ?_⟩
    simp [Remark.details, someLevel]
  | field slot holds label => rwa [closing, Remark.flatMap_details_detail] at closes ⊢
  | levels slot label => rwa [closing, Remark.flatMap_details_detail] at closes ⊢
  | arguments slot => rwa [closing, Remark.flatMap_details_detail] at closes ⊢
  | argument before after => rwa [closing, Remark.flatMap_details_detail] at closes ⊢

end Frame

/-! ### Contexts -/

/-- A document that is read as a descriptor, with a place left open at which something is expected:
the frames around the place, from there outwards. -/
inductive Context : Expected → Type where
  | whole : Context .descriptor
  | inside {inner outer : Expected} (frame : Frame inner outer) (around : Context outer) :
      Context inner

namespace Context

variable {expected : Expected}

def fill {expected : Expected} (x : Document) : Context expected → Document
  | whole => x
  | inside frame around => around.fill (frame.fill x)

def place {expected : Expected} : Context expected → List Step
  | whole => []
  | inside frame around => around.place ++ frame.place

def opening {expected : Expected} : Context expected → List Detail
  | whole => []
  | inside frame around =>
      around.opening ++ frame.opening.map (Detail.under around.place)

def closing {expected : Expected} : Context expected → List Remark
  | whole => []
  | inside frame around =>
      frame.closing.map (Remark.under around.place) ++ around.closing.map (Remark.after frame.fill)

def Takes {expected : Expected} (x : Document) : Context expected → Prop
  | whole => True
  | inside frame _ => frame.Takes x

theorem takes_of_ne_text (C : Context expected) {x : Document} (noText : ∀ name, x ≠ .text name) :
    C.Takes x := by
  cases C with
  | whole => trivial
  | inside frame around => exact frame.takes_of_ne_text noText

theorem details_fill (C : Context expected) {x : Document} (takes : C.Takes x) :
    (ofDocument (C.fill x)).details =
      C.opening ++ (detailsAt expected x).map (Detail.under C.place) ++
        C.closing.flatMap (Remark.details x) := by
  induction C generalizing x with
  | whole => simp [fill, opening, place, closing, detailsAt]
  | inside frame around ih =>
    have takesFrame : around.Takes (frame.fill x) :=
      around.takes_of_ne_text (frame.fill_ne_text x)
    rw [fill, ih takesFrame, frame.detailsAt_fill takes, opening, place, closing]
    simp [List.flatMap_append, List.flatMap_map, List.map_flatMap]

theorem details_fill_eq_nil (C : Context expected) {x y : Document} (takes : C.Takes x)
    (takesOther : C.Takes y) (valid : detailsAt expected x = [])
    (around : (ofDocument (C.fill y)).details = []) : (ofDocument (C.fill x)).details = [] := by
  induction C generalizing x y with
  | whole => exact valid
  | @inside inner outer frame outside ih =>
    have takesFrame := outside.takes_of_ne_text (frame.fill_ne_text x)
    have takesOtherFrame := outside.takes_of_ne_text (frame.fill_ne_text y)
    have isValidOther : detailsAt outer (frame.fill y) = [] := by
      have parts := outside.details_fill takesOtherFrame
      rw [← fill, around, eq_comm, List.append_eq_nil_iff, List.append_eq_nil_iff,
        List.map_eq_nil_iff] at parts
      exact parts.1.2
    exact ih takesFrame takesOtherFrame
      (frame.detailsAt_fill_eq_nil takes takesOther valid isValidOther) around

end Context

/-! ### Validation -/

def IsValid (d : Document) : Prop :=
  ∃ descriptor, validate d = .ok descriptor

theorem isValid_iff {d : Document} : IsValid d ↔ (validate d).details = [] :=
  (isTold_ofDocument (d.bounded .descriptor .whole)).details_eq_nil_iff.symm

theorem details_ofDocument_of_isValid {d : Document} (valid : IsValid d) :
    (ofDocument d).details = [] := by
  rw [isValid_iff] at valid
  rw [← details_validate (by simp [valid, AreExhaustive]), valid]

/-- The details of a filled context are those of the context and those of the filler on its own,
moved to the place of the filler.  Only the lack of levels depends on both. -/
theorem details_validate_fill (C : Context .descriptor) (x : Document) (takes : C.Takes x)
    (exhaustive : AreExhaustive (validate (C.fill x)).details)
    (alone : AreExhaustive (validate x).details) :
    (validate (C.fill x)).details =
        C.opening ++ (validate x).details.map (Detail.under C.place) ++
          C.closing.flatMap (Remark.details x) ∧
      (IsValid (C.fill x) ↔ IsValid x ∧ ∃ y, IsValid y ∧ IsValid (C.fill y)) := by
  have parts := C.details_fill takes
  rw [detailsAt, ← details_validate exhaustive, ← details_validate alone] at parts
  refine ⟨parts, ?_, ?_⟩
  · intro valid
    have isValid : IsValid x := by
      rw [isValid_iff, parts, List.append_eq_nil_iff, List.append_eq_nil_iff,
        List.map_eq_nil_iff] at valid
      exact isValid_iff.2 valid.1.2
    exact ⟨isValid, x, isValid, valid⟩
  · rintro ⟨valid, y, validOther, around⟩
    have noText : ∀ name, y ≠ .text name := by
      rintro name rfl
      obtain ⟨d, isRead⟩ := validOther
      simp [validate, Document.text, Document.bounded, ofDocument, fail] at isRead
    rw [isValid_iff, details_validate exhaustive]
    exact C.details_fill_eq_nil takes (C.takes_of_ne_text noText)
      (details_ofDocument_of_isValid valid) (details_ofDocument_of_isValid around)

/-- The second argument of a list, whose document has an unknown key. -/
def listArgument : Context .descriptor :=
  .inside (.argument [text "T"] [])
    (.inside
      (.arguments
        { before := [(.text "name", text "List")], after := []
          isFirst := by decide, areWhole := by decide })
      (.inside (.level [] [])
        (.inside
          (.levels
            { before := [(.text "kind", text "named")], after := [(.text "size", .int 0)]
              isFirst := by decide, areWhole := by decide }
            (by decide))
          .whole)))

def rankZero : Document :=
  record [("kind", text "array"), ("element_type", record [("kind", text "void")]),
    ("rank", .int 0)]

/-- The only level is not valid because of its argument, so there is a lack of levels as well. -/
theorem details_rankZero_in_list :
    listArgument.Takes rankZero ∧ AreExhaustive (validate (listArgument.fill rankZero)).details ∧
      AreExhaustive (validate rankZero).details ∧
      (validate (listArgument.fill rankZero)).details =
        [⟨[.name "named", .name "levels", .index 0, .name "type_arguments", .index 1,
            .name "array", .name "rank"], .belowOne⟩,
          ⟨[.name "named", .name "levels"], .noLevel⟩,
          ⟨[.name "named", .name "size"], .fieldUnknown⟩] ∧
      ¬ IsValid (listArgument.fill rankZero) := by
  have takes : listArgument.Takes rankZero := by
    intro name same
    cases same
  have exhaustive : AreExhaustive (validate (listArgument.fill rankZero)).details := by
    decide +kernel
  have alone : AreExhaustive (validate rankZero).details := by decide +kernel
  obtain ⟨parts, valid⟩ := details_validate_fill listArgument rankZero takes exhaustive alone
  refine ⟨takes, exhaustive, alone, parts.trans (by decide +kernel), ?_⟩
  rw [valid, isValid_iff]
  rintro ⟨notWrong, -⟩
  revert notWrong
  decide +kernel

end Descriptor
end TypeDisplay
