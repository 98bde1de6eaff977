import TypeDisplay.CommandLine
import TypeDisplay.Proofs.OptionFormat

/-!
# Where options come from

What the option file of a run gives is told by the file system, by the text that the file holds and
by the document that the text stands for.  A file that is not there is told apart from one that
cannot be read, and for the default file this is asked first: if it is there, it has to be right.
-/

namespace TypeDisplay

/-- The file at a path can be read and holds the text. -/
def FileSystem.HasText (system : FileSystem) (p : Path) (text : Text) : Prop :=
  ∃ octets cs, system.read p = .ok octets ∧ readText octets = .ok cs ∧ text = .ofChars cs

namespace Options

section

variable {label : Text} {entries : List Document.Entry}

/-- There is one thing wrong with unknown keys. -/
theorem Rejects.eq {e e' : OptionsError} (h : Rejects label entries e)
    (h' : Rejects label entries e') (areKeys : AreKeys (entries.map Prod.fst)) : e = e' := by
  cases h with
  | listed lists areWritable =>
    cases h' with
    | listed lists' _ => rw [lists.eq lists' areKeys]
    | unwritable isEntry unknown isLong =>
      exact absurd (areWritable _ isEntry unknown) (by simp [isLong])
  | unwritable isEntry unknown isLong =>
    cases h' with
    | listed _ areWritable => exact absurd (areWritable _ isEntry unknown) (by simp [isLong])
    | unwritable _ _ _ => rfl

theorem ofEntries_of_rejects {e : OptionsError} (h : Rejects label entries e)
    (unknown : ∃ entry ∈ entries, IsUnknown entry.1) (areKeys : AreKeys (entries.map Prod.fst)) :
    ofEntries label entries = .error e := by
  obtain ⟨e', fails, rejects⟩ := @ofEntries_rejects entries label unknown
  rw [fails, rejects.eq h areKeys]

end

/-! ### Option files -/

/-- What the option file at a path gives. -/
inductive Gives (system : FileSystem) (p : Path) : Except OptionsLoadError Options → Prop where
  | notFound {e : AccessError} (fails : system.read p = .error e) (isMissing : e.isMissing = true) :
      Gives system p (.error (.notFound p))
  | unreadable {e : AccessError} (fails : system.read p = .error e)
      (isThere : e.isMissing = false) : Gives system p (.error (.unreadable p e))
  | undecodable {octets : List UInt8} {failure : Utf8.Failure} (isRead : system.read p = .ok octets)
      (fails : readText octets = .error failure) : Gives system p (.error (.undecodable failure))
  | malformed {text : Text} {cause : Yaml.Malformed} (hasText : system.HasText p text)
      (fails : Yaml.read text = .error (.malformed cause)) :
      Gives system p (.error (.options (.malformed p.text)))
  | badScalar {text : Text} {cause : Yaml.BadScalar} (hasText : system.HasText p text)
      (fails : Yaml.read text = .error (.badScalar cause)) :
      Gives system p (.error (.options (.badScalar cause)))
  | notMapping {text : Text} {linked : Linked} (hasText : system.HasText p text)
      (isRead : Yaml.read text = .ok linked) (notNull : linked.top ≠ .null)
      (isOther : ∀ entries, linked.top ≠ .mapping entries) :
      Gives system p (.error (.options (.notMapping p.text)))
  | unknown {text : Text} {linked : Linked} {entries : List Document.Entry} {e : OptionsError}
      (hasText : system.HasText p text) (isRead : Yaml.read text = .ok linked)
      (isMapping : linked.top = .mapping entries)
      (hasUnknown : ∃ entry ∈ entries, IsUnknown entry.1) (rejects : Rejects p.text entries e) :
      Gives system p (.error (.options e))
  | notFlag {text : Text} {linked : Linked} {value : Document} (hasText : system.HasText p text)
      (isRead : Yaml.read text = .ok linked)
      (isMapping : linked.top = .mapping [(.text (.ofString escapeKey), value)])
      (isOther : ∀ b, value ≠ .bool b) : Gives system p (.error (.options (.notFlag p.text)))
  | described {text : Text} {linked : Linked} {options : Options} (hasText : system.HasText p text)
      (isRead : Yaml.read text = .ok linked) (describes : Describes linked.top options) :
      Gives system p (.ok options)

section

variable {system : FileSystem} {p : Path} {found : Except OptionsLoadError Options}

theorem load_of_hasText {text : Text} (hasText : system.HasText p text) :
    load system p = (parse text p.text).mapError .options := by
  obtain ⟨octets, cs, isRead, isText, rfl⟩ := hasText
  simp only [load, isRead, isText]

theorem load_of_read {text : Text} {linked : Linked} (hasText : system.HasText p text)
    (isRead : Yaml.read text = .ok linked) :
    load system p = (ofDocument p.text linked.top).mapError .options := by
  rw [load_of_hasText hasText, parse_of_read isRead]

theorem Gives.load_eq (h : Gives system p found) : load system p = found := by
  cases h with
  | notFound fails isMissing => simp [load, fails, isMissing]
  | unreadable fails isThere => simp [load, fails, isThere]
  | undecodable isRead fails => simp only [load, isRead, fails]
  | malformed hasText fails =>
    rw [load_of_hasText hasText, parse, fails]
    rfl
  | badScalar hasText fails =>
    rw [load_of_hasText hasText, parse, fails]
    rfl
  | notMapping hasText isRead notNull isOther =>
    rw [load_of_read hasText isRead]
    unfold ofDocument
    split
    case h_1 isNull => exact absurd isNull notNull
    case h_2 entries isMapping => exact absurd isMapping (isOther entries)
    case h_3 => rfl
  | unknown hasText isRead isMapping hasUnknown rejects =>
    have keys := Yaml.hasKeys_of_read isRead
    rw [isMapping] at keys
    rw [load_of_read hasText isRead, isMapping, ofDocument,
      ofEntries_of_rejects rejects hasUnknown keys]
    rfl
  | notFlag hasText isRead isMapping isOther =>
    rw [load_of_read hasText isRead, isMapping, ofDocument, ofEntries_flag]
    split
    case h_1 b => exact absurd rfl (isOther b)
    case h_2 => rfl
  | described hasText isRead describes =>
    rw [load_of_read hasText isRead,
      (ofDocument_eq_ok_iff (Yaml.hasKeys_of_read isRead)).2 describes]
    rfl

theorem gives_of_read {text : Text} {linked : Linked} (hasText : system.HasText p text)
    (isRead : Yaml.read text = .ok linked) : ∃ found, Gives system p found := by
  have keys := Yaml.hasKeys_of_read isRead
  by_cases isNull : linked.top = .null
  · have describes : Describes linked.top ⟨true⟩ := by
      rw [isNull]
      exact .nothing
    exact ⟨_, .described hasText isRead describes⟩
  by_cases isMapping : ∃ entries, linked.top = .mapping entries
  · obtain ⟨entries, isMapping⟩ := isMapping
    rw [isMapping] at keys
    by_cases hasUnknown : ∃ entry ∈ entries, IsUnknown entry.1
    · obtain ⟨e, -, rejects⟩ := @ofEntries_rejects entries p.text hasUnknown
      exact ⟨_, .unknown hasText isRead isMapping hasUnknown rejects⟩
    have known : unknownKeys entries = [] := by
      rw [unknownKeys_eq_nil_iff]
      intro entry isEntry
      by_contra isOther
      exact hasUnknown ⟨entry, isEntry, isOther⟩
    rcases entries_of_known keys known with rfl | ⟨value, rfl⟩
    · have describes : Describes linked.top ⟨true⟩ := by
        rw [isMapping]
        exact .unset
      exact ⟨_, .described hasText isRead describes⟩
    by_cases isFlag : ∃ b, value = .bool b
    · obtain ⟨b, rfl⟩ := isFlag
      have describes : Describes linked.top ⟨b⟩ := by
        rw [isMapping]
        exact .set b
      exact ⟨_, .described hasText isRead describes⟩
    · exact ⟨_, .notFlag hasText isRead isMapping fun b isBool ↦ isFlag ⟨b, isBool⟩⟩
  · exact ⟨_, .notMapping hasText isRead isNull fun entries same ↦ isMapping ⟨entries, same⟩⟩

/-- Every option file gives something. -/
theorem exists_gives (system : FileSystem) (p : Path) : ∃ found, Gives system p found := by
  cases isRead : system.read p with
  | error e =>
    cases isMissing : e.isMissing with
    | true => exact ⟨_, .notFound isRead isMissing⟩
    | false => exact ⟨_, .unreadable isRead isMissing⟩
  | ok octets =>
    cases isText : readText octets with
    | error failure => exact ⟨_, .undecodable isRead isText⟩
    | ok cs =>
      have hasText : system.HasText p (.ofChars cs) := ⟨octets, cs, isRead, isText, rfl⟩
      cases isYaml : Yaml.read (.ofChars cs) with
      | ok linked => exact gives_of_read hasText isYaml
      | error failure =>
        cases failure with
        | malformed cause => exact ⟨_, .malformed hasText isYaml⟩
        | badScalar cause => exact ⟨_, .badScalar hasText isYaml⟩

theorem gives_iff : Gives system p found ↔ load system p = found := by
  refine ⟨Gives.load_eq, ?_⟩
  rintro rfl
  obtain ⟨found, gives⟩ := exists_gives system p
  rw [gives.load_eq]
  exact gives

end

end Options

namespace CommandLine

/-- The path of the file that the options of a run are looked for in. -/
def OptionFile.path : OptionFile → Path
  | .named file => .ofText file
  | .standard | .absent => .ofText Options.defaultFile

/-- What a run settles on: what the named file gives, else what the default file gives if it is
there, else the defaults. -/
inductive Settles (system : FileSystem) : OptionFile → Except OptionsLoadError Options → Prop where
  | named {file : Text} {found : Except OptionsLoadError Options}
      (gives : Options.Gives system (.ofText file) found) : Settles system (.named file) found
  | standard {found : Except OptionsLoadError Options}
      (isThere : system.look (.ofText Options.defaultFile) = .ok ())
      (gives : Options.Gives system (.ofText Options.defaultFile) found) :
      Settles system .standard found
  | defaults {e : AccessError} (fails : system.look (.ofText Options.defaultFile) = .error e)
      (isAbsence : e.isAbsence = true) : Settles system .standard (.ok {})
  | hidden {e : AccessError} (fails : system.look (.ofText Options.defaultFile) = .error e)
      (isOther : e.isAbsence = false) :
      Settles system .standard (.error (.hidden (.ofText Options.defaultFile) e))

variable {system : FileSystem} {config : OptionFile} {found : Except OptionsLoadError Options}

theorem Settles.resolveOptions_eq (h : Settles system config found) :
    resolveOptions system config = found.mapError (ofOptionsError config.path) := by
  cases h with
  | named gives => rw [resolveOptions, loadOptions, gives.load_eq, OptionFile.path]
  | standard isThere gives =>
    simp only [resolveOptions, FileSystem.finds, isThere, loadOptions, gives.load_eq,
      OptionFile.path]
  | defaults fails isAbsence =>
    simp [resolveOptions, FileSystem.finds, fails, isAbsence, Except.mapError]
  | hidden fails isOther =>
    simp [resolveOptions, FileSystem.finds, fails, isOther, Except.mapError, OptionFile.path]

/-- A run settles on something, unless its option file has no path. -/
theorem exists_settles (given : config ≠ .absent) : ∃ found, Settles system config found := by
  cases config with
  | named file =>
    obtain ⟨found, gives⟩ := Options.exists_gives system (.ofText file)
    exact ⟨found, .named gives⟩
  | standard =>
    cases look : system.look (.ofText Options.defaultFile) with
    | ok _ =>
      obtain ⟨found, gives⟩ := Options.exists_gives system (.ofText Options.defaultFile)
      exact ⟨found, .standard look gives⟩
    | error e =>
      cases isAbsence : e.isAbsence with
      | true => exact ⟨_, .defaults look isAbsence⟩
      | false => exact ⟨_, .hidden look isAbsence⟩
  | absent => exact absurd rfl given

end CommandLine
end TypeDisplay
