import TypeDisplay.Proofs.FormatRun
import TypeDisplay.Proofs.Utf8Grammar

/-!
# Files that end a run

Not every bad file is reported.  An error is not reported when the octets of the file are not UTF-8
or when a scalar in it is no value of its tag, and in an option file also when an unknown key is an
integer too long to be written.  Such a file ends a run: what was displayed before it stays, and the
files after it are not looked at.
-/

namespace TypeDisplay

open Utf8 (IsUtf8)

/-- A scalar in the text of a file is no value of its tag. -/
def HasBadScalar (octets : List UInt8) : Prop :=
  ∃ cs cause, readText octets = .ok cs ∧ Yaml.read (.ofChars cs) = .error (.badScalar cause)

/-- An unknown key at the top of a file is an integer too long to be written. -/
def HasUnwritableField (octets : List UInt8) : Prop :=
  ∃ cs linked entries, readText octets = .ok cs ∧ Yaml.read (.ofChars cs) = .ok linked ∧
    linked.top = .mapping entries ∧
    ∃ key ∈ Options.unknownKeys entries, key.isWritable = false

theorem readText_eq_ok_iff {octets : List UInt8} :
    (∃ cs, readText octets = .ok cs) ↔ IsUtf8 octets := by
  rw [readText, ← Utf8.decode_eq_ok_iff]
  cases Utf8.decode octets <;> simp [Except.map]

theorem isUtf8_of_readText {octets : List UInt8} {cs : List Char}
    (isText : readText octets = .ok cs) : IsUtf8 octets :=
  readText_eq_ok_iff.1 ⟨cs, isText⟩

theorem not_isUtf8_of_readText {octets : List UInt8} {failure : Utf8.Failure}
    (failed : readText octets = .error failure) : ¬ IsUtf8 octets := by
  rw [← readText_eq_ok_iff, failed]
  simp

section

variable {system : FileSystem} {p : Path} {octets : List UInt8}

theorem Source.parse_unreported_iff {text label : Text} :
    (∃ e, Source.parse text label = .error e ∧ (LoadError.source e).isReported = false) ↔
      ∃ cause, Yaml.read text = .error (.badScalar cause) := by
  rw [Source.parse]
  split
  case h_1 cause failed => simp [failed, LoadError.isReported]
  case h_2 cause failed => simp [failed, LoadError.isReported]
  case h_3 linked isRead =>
    simp only [isRead, reduceCtorEq, exists_false, iff_false, not_exists, not_and]
    intro e failed
    split at failed
    · cases isValid : Descriptor.validate linked.unrolled with
      | ok d => simp [isValid, Except.mapError] at failed
      | error details =>
        obtain rfl : SourceError.invalid label details = e := by
          simpa [isValid, Except.mapError] using failed
        simp [LoadError.isReported]
    · obtain rfl := Except.error.inj failed
      simp [LoadError.isReported]

theorem Source.load_unreported_iff (isRead : system.read p = .ok octets) :
    (∃ e, Source.load system p = .error e ∧ e.isReported = false) ↔
      ¬ IsUtf8 octets ∨ HasBadScalar octets := by
  cases decoded : readText octets with
  | error failure =>
    have fails : Source.load system p = .error (.undecodable failure) := by
      simp [Source.load, isRead, decoded]
    simp [fails, not_isUtf8_of_readText decoded, LoadError.isReported]
  | ok cs =>
    have parses : Source.load system p =
        (Source.parse (.ofChars cs) p.text).mapError .source := by
      simp [Source.load, isRead, decoded]
    have inText := @Source.parse_unreported_iff (.ofChars cs) p.text
    have scalars : HasBadScalar octets ↔
        ∃ cause, Yaml.read (.ofChars cs) = .error (.badScalar cause) := by
      simp [HasBadScalar, decoded]
    rw [parses, scalars, ← inText]
    cases Source.parse (.ofChars cs) p.text <;>
      simp [Except.mapError, isUtf8_of_readText decoded]

theorem Options.ofEntries_unreported_iff {label : Text} {entries : List Document.Entry} :
    (∃ e, Options.ofEntries label entries = .error e ∧ e.isReported = false) ↔
      ∃ key ∈ Options.unknownKeys entries, key.isWritable = false := by
  rw [Options.ofEntries]
  split
  case h_1 noKeys =>
    rw [noKeys]
    split <;> simp [OptionsError.isReported]
  case h_2 =>
    split
    case isTrue writable =>
      simpa [OptionsError.isReported] using writable
    case isFalse unwritable =>
      simpa [OptionsError.isReported] using unwritable

theorem Options.parse_unreported_iff {text label : Text} :
    (∃ e, Options.parse text label = .error e ∧ e.isReported = false) ↔
      (∃ cause, Yaml.read text = .error (.badScalar cause)) ∨
        ∃ linked entries, Yaml.read text = .ok linked ∧ linked.top = .mapping entries ∧
          ∃ key ∈ Options.unknownKeys entries, key.isWritable = false := by
  rw [Options.parse]
  split
  case h_1 cause failed => simp [failed, OptionsError.isReported]
  case h_2 cause failed => simp [failed, OptionsError.isReported]
  case h_3 linked isRead =>
    simp only [isRead, reduceCtorEq, exists_false, false_or, Except.ok.injEq, exists_and_left,
      exists_eq_left']
    unfold Options.ofDocument
    split
    case h_1 isNull => simp [isNull]
    case h_2 entries isMapping => simp [isMapping, Options.ofEntries_unreported_iff]
    case h_3 notNull notMapping =>
      have noEntries : ∀ entries, linked.top ≠ .mapping entries := fun entries ↦ notMapping entries
      simp [OptionsError.isReported, noEntries]

theorem Options.load_unreported_iff (isRead : system.read p = .ok octets) :
    (∃ e, Options.load system p = .error e ∧ e.isReported = false) ↔
      ¬ IsUtf8 octets ∨ HasBadScalar octets ∨ HasUnwritableField octets := by
  cases decoded : readText octets with
  | error failure =>
    have fails : Options.load system p = .error (.undecodable failure) := by
      simp [Options.load, isRead, decoded]
    simp [fails, not_isUtf8_of_readText decoded, OptionsLoadError.isReported]
  | ok cs =>
    have parses : Options.load system p =
        (Options.parse (.ofChars cs) p.text).mapError .options := by
      simp [Options.load, isRead, decoded]
    have inText := @Options.parse_unreported_iff (.ofChars cs) p.text
    have scalars : HasBadScalar octets ↔
        ∃ cause, Yaml.read (.ofChars cs) = .error (.badScalar cause) := by
      simp [HasBadScalar, decoded]
    have fields : HasUnwritableField octets ↔
        ∃ linked entries, Yaml.read (.ofChars cs) = .ok linked ∧ linked.top = .mapping entries ∧
          ∃ key ∈ Options.unknownKeys entries, key.isWritable = false := by
      simp [HasUnwritableField, decoded]
    rw [parses, scalars, fields, ← inText]
    cases Options.parse (.ofChars cs) p.text <;>
      simp [Except.mapError, isUtf8_of_readText decoded, OptionsLoadError.isReported]

end

namespace CommandLine

variable {system : FileSystem} {file : Text}

/-- The files in front of one that ends the run are displayed or reported, those behind it are
not. -/
theorem transcript_of_unreported {console : Console} {remarks : Remarks} {config : OptionFile}
    {options : Options} {noEscape : Bool} {before after : List Text} {e : LoadError}
    (settles : Settles system config (.ok options))
    (shown : ∀ f ∈ before,
      IsShown console system (options.escapeKeywords && !noEscape) f)
    (fails : Source.load system (.ofText file) = .error e) (unreported : e.isReported = false) :
    let escaping := options.escapeKeywords && !noEscape
    (format system (before ++ file :: after) config noEscape).transcript console remarks =
      ⟨streamText (namesOf system escaping before),
        streamText (reportsOf system remarks escaping before), .ended (.aborted (.load e))⟩ := by
  intro escaping
  have ends : formatFile system escaping file = .abort (.load e) := by
    simp [formatFile, fails, ofLoadError, unreported]
  rw [format_of_options settles, transcript_formatFiles_append shown, formatFiles, ends]
  simp [Run.transcript, Transcript.ofLog, Transcript.preceded, escaping]

/-- Which files are not reported, though they can be read, and what becomes of a run over such a
file. -/
theorem unreported_iff {octets : List UInt8} (isRead : system.read (.ofText file) = .ok octets) :
    ((∃ e, Source.load system (.ofText file) = .error e ∧ e.isReported = false) ↔
        ¬ IsUtf8 octets ∨ HasBadScalar octets) ∧
      ((∃ e, Options.load system (.ofText file) = .error e ∧ e.isReported = false) ↔
        ¬ IsUtf8 octets ∨ HasBadScalar octets ∨ HasUnwritableField octets) ∧
      (¬ IsUtf8 octets ∨ HasBadScalar octets →
        ∀ console remarks config options noEscape before after,
          Settles system config (.ok options) →
          let escaping := options.escapeKeywords && !noEscape
          (∀ f ∈ before, IsShown console system escaping f) →
          ∃ e, Source.load system (.ofText file) = .error e ∧ e.isReported = false ∧
            (format system (before ++ file :: after) config noEscape).transcript console remarks =
              ⟨streamText (namesOf system escaping before),
                streamText (reportsOf system remarks escaping before),
                .ended (.aborted (.load e))⟩) := by
  have unreported := Source.load_unreported_iff isRead
  refine ⟨unreported, Options.load_unreported_iff isRead, ?_⟩
  intro bad console remarks config options noEscape before after settles escaping shown
  obtain ⟨e, fails, notReported⟩ := unreported.2 bad
  exact ⟨e, fails, notReported, transcript_of_unreported settles shown fails notReported⟩

/-- The name in Latin-1 ends the run between the two files that could be displayed. -/
theorem format_latinFile :
    let system : FileSystem := filesOf [classFile, latinFile]
    let octets := latinFile.2
    system.read (.ofText "latin.yaml") = .ok octets ∧ ¬ IsUtf8 octets ∧
      (∃ e, Options.load system (.ofText "latin.yaml") = .error e ∧ e.isReported = false) ∧
      ∃ e, e.isReported = false ∧
        (format system ["class.yaml", "latin.yaml", "class.yaml"] .standard false).transcript .utf8
          (fun _ ↦ none) = ⟨"@class\n", [], .ended (.aborted (.load e))⟩ := by
  intro system octets
  have isRead : system.read (.ofText "latin.yaml") = .ok octets := by decide +kernel
  have notUtf8 : ¬ IsUtf8 octets := by
    rw [← Utf8.decode_eq_ok_iff]
    have fails : Utf8.decode octets = .error ⟨0xE9, 22, 23, .invalidContinuation⟩ := by
      decide +kernel
    simp [fails]
  obtain ⟨-, options, run⟩ := unreported_iff isRead
  refine ⟨isRead, notUtf8, options.2 (.inl notUtf8), ?_⟩
  have settles : Settles system .standard (.ok {}) :=
    .defaults (show system.look (.ofText Options.defaultFile) = .error (.refused .missing) by
      decide +kernel) rfl
  have isName : outcome system true "class.yaml" = .ok "@class" := by decide +kernel
  have shown : IsShown .utf8 system true "class.yaml" := isShown_of_name isName (by decide +kernel)
  obtain ⟨e, -, unreported, ends⟩ := run (.inl notUtf8) .utf8 (fun _ ↦ none) .standard {} false _
    ["class.yaml"] settles (List.forall_mem_singleton.2 shown)
  refine ⟨e, unreported, ends.trans ?_⟩
  have output : streamText (namesOf system true ["class.yaml"]) = "@class\n" := by decide +kernel
  have errors : streamText (reportsOf system (fun _ ↦ none) true ["class.yaml"]) = [] := by
    decide +kernel
  rw [Transcript.mk.injEq]
  exact ⟨output, errors, rfl⟩

/-- A month that does not exist. -/
example : HasBadScalar (Utf8.encode "kind: 2024-13-01") :=
  ⟨"kind: 2024-13-01".toList, .calendar .month, by decide +kernel, by decide +kernel⟩

end CommandLine
end TypeDisplay
