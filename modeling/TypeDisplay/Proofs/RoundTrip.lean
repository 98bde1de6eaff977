import TypeDisplay.Proofs.DescriptorText
import TypeDisplay.Proofs.SavedFile
import TypeDisplay.Proofs.Unrolling
import TypeDisplay.Source.File

/-!
# Reading undoes writing

The complete document of a well-formed descriptor is validated as this descriptor.  So a descriptor
that is written is read again as itself, be it from a text or from a file, provided that YAML gives
back what was written up to the order of entries.
-/

namespace TypeDisplay

open Document (Reordered)

namespace Descriptor

/-! ### Documents -/

theorem fits_whole {d : Descriptor} (isShallow : d.isTooDeep = false) {x : Document}
    (h : Reordered d.toDocument x) : Document.Fits .descriptor .whole x := by
  refine fits_of_reordered h ?_
  simpa [isTooDeep, Room.whole] using isShallow

/-- A document is validated as the descriptor that it describes, unless that is too deep. -/
theorem validate_of_reordered {d : Descriptor} (wellFormed : WellFormed d)
    (isShallow : d.isTooDeep = false) {x : Document} (h : Reordered d.toDocument x) :
    validate x = .ok d := by
  rw [validate, (fits_whole isShallow h).bounded_eq_self]
  exact ofDocument_of_reordered wellFormed h

theorem document_of_isShallow {d : Descriptor} (isShallow : d.isTooDeep = false) :
    d.document = .ok d.toDocument := by
  simp [document, isShallow]

theorem isShallow_of_document {d : Descriptor} {doc : Document} (h : d.document = .ok doc) :
    d.isTooDeep = false ∧ doc = d.toDocument := by
  rw [document] at h
  split at h
  · cases h
  · rename_i isShallow
    exact ⟨by simpa using isShallow, (Except.ok.inj h).symm⟩

end Descriptor

namespace Source

open Descriptor (WellFormed)

/-! ### Texts and files -/

/-- YAML gives back what it was given, up to the order of entries. -/
def ReadsBack (doc : Document) : Prop :=
  ∃ linked, Yaml.read (Text.ofChars (Yaml.write doc)) = .ok linked ∧
    Reordered doc (linked.expansion linked.root)

variable {d : Descriptor}

theorem print_of_isShallow (isShallow : d.isTooDeep = false) :
    print d = .ok (String.ofList (Yaml.write d.toDocument)) := by
  rw [print, Descriptor.document_of_isShallow isShallow]
  rfl

theorem print_eq_ok {text : String} (h : print d = .ok text) :
    d.isTooDeep = false ∧ text = String.ofList (Yaml.write d.toDocument) := by
  obtain ⟨doc, isDocument, rfl⟩ := except_map_eq_ok_iff.1 h
  obtain ⟨isShallow, rfl⟩ := Descriptor.isShallow_of_document isDocument
  exact ⟨isShallow, rfl⟩

section

variable (wellFormed : WellFormed d) (readsBack : ReadsBack d.toDocument)

include wellFormed readsBack

theorem parse_write (isShallow : d.isTooDeep = false) (label : Text) :
    parse (Text.ofChars (Yaml.write d.toDocument)) label = .ok d := by
  obtain ⟨linked, isRead, same⟩ := readsBack
  have seen : linked.unrolled = linked.expansion linked.root :=
    Linked.unrolled_eq_expansion (Descriptor.fits_whole isShallow same)
  have isValid := Descriptor.validate_of_reordered wellFormed isShallow same
  have isRecord := same
  rw [Descriptor.toDocument_eq_record] at isRecord
  obtain ⟨entries, isEntries, -⟩ := isRecord.eq_record
  have mapping : isMapping (linked.expansion linked.root) = true := by
    rw [isEntries]
    rfl
  simp [parse, isRead, seen, mapping, isValid, Except.mapError]

theorem parse_print {text : String} (h : print d = .ok text) (label : Text) :
    parse (Text.ofString text) label = .ok d := by
  obtain ⟨isShallow, rfl⟩ := print_eq_ok h
  rw [Text.ofString, String.toList_ofList]
  exact parse_write wellFormed readsBack isShallow label

theorem load_save {fs fs' : Files} {p : Path} (h : save fs d p = .ok fs') :
    load fs'.read p = .ok d := by
  rw [save] at h
  split at h
  · cases h
  · rename_i text isPrinted
    obtain ⟨isShallow, rfl⟩ := print_eq_ok isPrinted
    cases written : fs.write p (Utf8.encode (String.ofList (Yaml.write d.toDocument))) with
    | error e => simp [written, Except.mapError] at h
    | ok saved =>
      obtain rfl : saved = fs' := by simpa [written, Except.mapError] using h
      rw [load, Reader.read_eq_ok (Files.read_of_write written)]
      simp only [readText_encode (d.areShown_write_toDocument),
        parse_write wellFormed readsBack isShallow]
      rfl

end

/-- A well-formed descriptor is read from its complete document, and from the text and the file it
was written to, unless it is too deep to be written.  Of YAML no more is asked than to give back
what it was given. -/
theorem reading_undoes_writing (wellFormed : WellFormed d) :
    Descriptor.ofDocument d.toDocument = .ok d ∧
      (d.isTooDeep = false →
        d.document = .ok d.toDocument ∧ Descriptor.validate d.toDocument = .ok d) ∧
      (ReadsBack d.toDocument →
        (d.isTooDeep = false → ∃ text, print d = .ok text) ∧
        (∀ text label, print d = .ok text → parse (Text.ofString text) label = .ok d) ∧
        ∀ fs fs' p, save fs d p = .ok fs' → load fs'.read p = .ok d) := by
  refine ⟨Descriptor.ofDocument_of_reordered wellFormed rfl, ?_, ?_⟩
  · intro isShallow
    exact ⟨Descriptor.document_of_isShallow isShallow,
      Descriptor.validate_of_reordered wellFormed isShallow rfl⟩
  · intro readsBack
    refine ⟨fun isShallow ↦ ⟨_, print_of_isShallow isShallow⟩, ?_, ?_⟩
    · exact fun _ label isPrinted ↦ parse_print wellFormed readsBack isPrinted label
    · exact fun _ _ _ isSaved ↦ load_save wellFormed readsBack isSaved

/-- An array of a parameter whose name is a word for null, so that it is quoted. -/
def quotedArray : Descriptor := .array (.parameter "null") 2 true

/-- The document of the array in the order in which it is written. -/
def quotedArrayLines : Document :=
  .mapping
    [(.text "element_type",
        .mapping [(.text "kind", .text "parameter"), (.text "name", .text "null")]),
      (.text "kind", .text "array"), (.text "multi_dimensional", .bool true),
      (.text "rank", .int 2)]

theorem sorted_quotedArray :
    Yaml.Written.sorted quotedArray.toDocument = quotedArrayLines ∧
      Yaml.Written.sorted quotedArrayLines = quotedArrayLines := by
  constructor <;>
    simp [quotedArray, quotedArrayLines, Descriptor.toDocument, Descriptor.record,
      Yaml.Written.sorted, Yaml.Written.sortedEntries, Document.text, Document.int, Document.bool,
      List.mergeSort, List.MergeSort.Internal.splitInTwo, List.splitAt, List.splitAt.go,
      Yaml.Written.keyWord, Scalar.string?, Text.string?_ofString]

theorem readsBack_quotedArray : ReadsBack quotedArray.toDocument := by
  let linked : Linked :=
    ⟨#[.mapping [(.text "element_type", 2), (.text "kind", 8), (.text "multi_dimensional", 10),
        (.text "rank", 12)], .scalar (.text "element_type"),
      .mapping [(.text "kind", 4), (.text "name", 6)], .scalar (.text "kind"),
      .scalar (.text "parameter"), .scalar (.text "name"), .scalar (.text "null"),
      .scalar (.text "kind"), .scalar (.text "array"), .scalar (.text "multi_dimensional"),
      .scalar (.bool true), .scalar (.text "rank"), .scalar (.int 2)], 0⟩
  have isRead : Yaml.read (Text.ofChars (Yaml.Written.lines quotedArrayLines)) = .ok linked := by
    decide +kernel
  have isSame : linked.expansion linked.root = quotedArrayLines := rfl
  refine ⟨linked, ?_, ?_⟩
  · rw [Yaml.write, sorted_quotedArray.1]
    exact isRead
  · rw [Reordered, isSame, sorted_quotedArray.1, sorted_quotedArray.2]

/-- The array is printed and read again, and it is loaded from wherever it was saved. -/
theorem reading_quotedArray :
    WellFormed quotedArray ∧ ReadsBack quotedArray.toDocument ∧
      (∃ text, print quotedArray = .ok text ∧
        parse (Text.ofString text) unnamed = .ok quotedArray) ∧
      ∀ fs fs' p, save fs quotedArray p = .ok fs' → load fs'.read p = .ok quotedArray := by
  have wellFormed : WellFormed quotedArray := by simp [quotedArray, WellFormed]
  have isShallow : quotedArray.isTooDeep = false := by decide
  obtain ⟨-, -, reads⟩ := reading_undoes_writing wellFormed
  obtain ⟨prints, parses, loads⟩ := reads readsBack_quotedArray
  obtain ⟨text, isPrinted⟩ := prints isShallow
  exact ⟨wellFormed, readsBack_quotedArray, ⟨text, isPrinted, parses text unnamed isPrinted⟩, loads⟩

end Source
end TypeDisplay
