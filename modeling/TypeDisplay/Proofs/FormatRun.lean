import TypeDisplay.CommandLine.Transcript
import TypeDisplay.Proofs.OptionFile

/-!
# Runs over files

A run that formats files first needs options.  If they cannot be had, nothing else is done.  With
options every file stands for itself: it is displayed or reported, as if it were the only one, and
the order of the files is kept on both streams.  A name that the output does not take ends the run
after the files before it.

The induction over the files goes through the files in front, since only these decide whether a
failure was met before.
-/

namespace TypeDisplay
namespace CommandLine

/-! ### Transcripts -/

theorem streamText_append (lines others : List Text) :
    streamText (lines ++ others) = streamText lines ++ streamText others :=
  List.flatMap_append

/-- A transcript behind lines that were printed before. -/
def Transcript.preceded (t : Transcript) (output errors : List Text) : Transcript :=
  { t with output := streamText output ++ t.output, errors := streamText errors ++ t.errors }

/-- What the output takes is said, whatever follows it. -/
theorem Transcript.ofLog_append {console : Console} {remarks : Remarks} {ending : Ending}
    {before after : List Entry} (taken : ∀ entry ∈ before, console.refusalOf? entry = none) :
    ofLog console remarks ending (before ++ after) =
      (ofLog console remarks ending after).preceded (before.filterMap Entry.output?)
        (before.filterMap (Entry.error? remarks)) := by
  induction before with
  | nil => rfl
  | cons entry before ih =>
    obtain ⟨first, others⟩ := List.forall_mem_cons.1 taken
    rw [List.cons_append, ofLog, first]
    simp only [ih others]
    cases entry <;>
      simp [preceded, streamText, List.filterMap_cons, Entry.output?, Entry.error?]

/-! ### Files -/

section

variable (system : FileSystem) (remarks : Remarks) (escaping : Bool) (file : Text)
  (files : List Text)

/-- The name of a file, or why it has none, when no other files are considered. -/
def outcome : Except FileFault Text :=
  ((Source.load system (.ofText file)).mapError .load).bind fun d ↦
    (d.displayName escaping).mapError .name

def hasFailed : Bool :=
  !(outcome system escaping file).isOk

/-- The names of the files that have one, in the order of the files. -/
def namesOf : List Text :=
  files.filterMap fun file ↦ (outcome system escaping file).toOption

/-- The line about a file that has no name. -/
def reportOf? : Option Text :=
  match outcome system escaping file with
  | .ok _ => none
  | .error fault => some (errorLine (file ++ ": " ++ fault.report (remarks (.ofText file))))

def reportsOf : List Text :=
  files.filterMap (reportOf? system remarks escaping)

/-- What is said of a file. -/
def entryOf : Entry :=
  match outcome system escaping file with
  | .ok name => .line name
  | .error fault => .fileFault file fault

end

/-- The file is displayed or reported: its error is one that is reported, and its name can be
printed. -/
structure IsShown (console : Console) (system : FileSystem) (escaping : Bool) (file : Text) :
    Prop where
  reportable : ∀ e, Source.load system (.ofText file) = .error e → e.isReported = true
  printable : ∀ name, outcome system escaping file = .ok name → console.refusal? name = none

/-- The files are displayed or reported, and the run fails if one was reported. -/
structure ShowsEach (system : FileSystem) (remarks : Remarks) (escaping : Bool)
    (files : List Text) (t : Transcript) : Prop where
  output : t.output = streamText (namesOf system escaping files)
  errors : t.errors = streamText (reportsOf system remarks escaping files)
  fails : t.close = .ended (.exit 1) ↔ ∃ file ∈ files, ∃ fault,
    outcome system escaping file = .error fault
  succeeds : t.close = .ended (.exit 0) ↔ ∀ file ∈ files, ∃ name,
    outcome system escaping file = .ok name

/-- The streams are put together from those of two parts, and a failure of either is one of the
whole. -/
structure IsSplit (whole first second : Transcript) : Prop where
  output : whole.output = first.output ++ second.output
  errors : whole.errors = first.errors ++ second.errors
  fails : whole.close = .ended (.exit 1) ↔
    first.close = .ended (.exit 1) ∨ second.close = .ended (.exit 1)

section

variable {console : Console} {system : FileSystem} {remarks : Remarks} {escaping : Bool}
  {file : Text} {files before after : List Text}

namespace ShowsEach

variable {t : Transcript} (h : ShowsEach system remarks escaping files t)

include h

theorem eq_of_fault (isFile : file ∈ files) {fault : FileFault}
    (fails : outcome system escaping file = .error fault) :
    t = ⟨streamText (namesOf system escaping files),
      streamText (reportsOf system remarks escaping files), .ended (.exit 1)⟩ := by
  rw [← h.output, ← h.errors, ← h.fails.2 ⟨file, isFile, fault, fails⟩]

theorem eq_of_names (named : ∀ file ∈ files, ∃ name, outcome system escaping file = .ok name) :
    t = ⟨streamText (namesOf system escaping files),
      streamText (reportsOf system remarks escaping files), .ended (.exit 0)⟩ := by
  rw [← h.output, ← h.errors, ← h.succeeds.2 named]

end ShowsEach

theorem hasFailed_iff :
    hasFailed system escaping file = true ↔
      ∃ fault, outcome system escaping file = .error fault := by
  rw [hasFailed]
  cases outcome system escaping file <;> simp [Except.isOk, Except.toBool]

theorem noneFailed_iff :
    files.any (hasFailed system escaping) = false ↔
      ∀ file ∈ files, ∃ name, outcome system escaping file = .ok name := by
  rw [List.any_eq_false]
  refine forall₂_congr fun file _ ↦ ?_
  rw [hasFailed]
  cases outcome system escaping file <;> simp [Except.isOk, Except.toBool]

theorem formatFile_eq_outcome
    (reportable : ∀ e, Source.load system (.ofText file) = .error e → e.isReported = true) :
    formatFile system escaping file =
      match outcome system escaping file with
      | .ok name => .name name
      | .error fault => .report fault := by
  rw [formatFile, outcome]
  cases loaded : Source.load system (.ofText file) with
  | error e => simp [Except.mapError, Except.bind, ofLoadError, reportable e loaded]
  | ok d =>
    simp only [Except.mapError, Except.bind]
    cases d.displayName escaping <;> rfl

/-- Files in front of others are said, and the others go on from whether one of them failed. -/
theorem formatFiles_append (shown : ∀ file ∈ before, IsShown console system escaping file)
    (failed : Bool) :
    formatFiles system escaping (before ++ after) failed =
      let run := formatFiles system escaping after
        (failed || before.any (hasFailed system escaping))
      { run with log := before.map (entryOf system escaping) ++ run.log } := by
  induction before generalizing failed with
  | nil => simp
  | cons file before ih =>
    obtain ⟨first, others⟩ := List.forall_mem_cons.1 shown
    rw [List.cons_append, formatFiles, formatFile_eq_outcome first.reportable]
    cases isOutcome : outcome system escaping file with
    | ok name =>
      have noFailure : hasFailed system escaping file = false := by
        simp [hasFailed, isOutcome, Except.isOk, Except.toBool]
      simp [ih others, entryOf, isOutcome, noFailure]
    | error fault =>
      have isFailure : hasFailed system escaping file = true := hasFailed_iff.2 ⟨fault, isOutcome⟩
      simp [ih others, entryOf, isOutcome, isFailure]

theorem outputs_entries :
    (files.map (entryOf system escaping)).filterMap Entry.output? =
      namesOf system escaping files := by
  rw [List.filterMap_map, namesOf]
  refine List.filterMap_congr fun file _ ↦ ?_
  simp only [Function.comp_apply, entryOf]
  cases outcome system escaping file <;> rfl

theorem errors_entries :
    (files.map (entryOf system escaping)).filterMap (Entry.error? remarks) =
      reportsOf system remarks escaping files := by
  rw [List.filterMap_map, reportsOf]
  refine List.filterMap_congr fun file _ ↦ ?_
  simp only [Function.comp_apply, entryOf, reportOf?]
  cases outcome system escaping file <;> rfl

theorem IsShown.refusalOf? (shown : IsShown console system escaping file) :
    console.refusalOf? (entryOf system escaping file) = none := by
  rw [entryOf]
  cases isOutcome : outcome system escaping file with
  | ok name => exact shown.printable name isOutcome
  | error fault => rfl

theorem isShown_of_name {name : Text} (isName : outcome system escaping file = .ok name)
    (taken : console.refusal? name = none) : IsShown console system escaping file := by
  refine ⟨fun e fails ↦ ?_, fun other isOther ↦ ?_⟩
  · simp [outcome, fails, Except.mapError, Except.bind] at isName
  · obtain rfl : name = other := Except.ok.inj (isName.symm.trans isOther)
    exact taken

theorem isShown_of_loadError {e : LoadError}
    (fails : outcome system escaping file = .error (.load e)) (isReported : e.isReported = true) :
    IsShown console system escaping file := by
  refine ⟨fun e' fails' ↦ ?_, fun name isName ↦ ?_⟩
  · obtain rfl : e' = e := by simpa [outcome, fails', Except.mapError, Except.bind] using fails
    exact isReported
  · rw [fails] at isName
    cases isName

theorem transcript_formatFiles_append
    (shown : ∀ file ∈ before, IsShown console system escaping file) (failed : Bool) :
    (formatFiles system escaping (before ++ after) failed).transcript console remarks =
      ((formatFiles system escaping after
        (failed || before.any (hasFailed system escaping))).transcript console remarks).preceded
        (namesOf system escaping before) (reportsOf system remarks escaping before) := by
  have taken : ∀ entry ∈ before.map (entryOf system escaping),
      console.refusalOf? entry = none := by
    rintro _ member
    obtain ⟨file, isFile, rfl⟩ := List.mem_map.1 member
    exact (shown file isFile).refusalOf?
  rw [formatFiles_append shown, Run.transcript, Transcript.ofLog_append taken, outputs_entries,
    errors_entries]
  rfl

theorem transcript_formatFiles (shown : ∀ file ∈ files, IsShown console system escaping file) :
    (formatFiles system escaping files false).transcript console remarks =
      ⟨streamText (namesOf system escaping files),
        streamText (reportsOf system remarks escaping files),
        .ended (.exit (if files.any (hasFailed system escaping) then 1 else 0))⟩ := by
  have all := @transcript_formatFiles_append console system remarks escaping files [] shown false
  simpa [formatFiles, Run.transcript, Transcript.ofLog, Transcript.preceded] using all

theorem showsEach_formatFiles (shown : ∀ file ∈ files, IsShown console system escaping file) :
    ShowsEach system remarks escaping files
      ((formatFiles system escaping files false).transcript console remarks) := by
  rw [transcript_formatFiles shown]
  have failed : files.any (hasFailed system escaping) = true ↔
      ∃ file ∈ files, ∃ fault, outcome system escaping file = .error fault := by
    simp only [List.any_eq_true, hasFailed_iff]
  refine ⟨rfl, rfl, ?_, ?_⟩
  · rw [← failed]
    cases files.any (hasFailed system escaping) <;> simp
  · rw [← noneFailed_iff]
    cases files.any (hasFailed system escaping) <;> simp

theorem isSplit_formatFiles
    (shown : ∀ file ∈ before ++ after, IsShown console system escaping file) :
    IsSplit ((formatFiles system escaping (before ++ after) false).transcript console remarks)
      ((formatFiles system escaping before false).transcript console remarks)
      ((formatFiles system escaping after false).transcript console remarks) := by
  obtain ⟨first, second⟩ := List.forall_mem_append.1 shown
  rw [transcript_formatFiles shown, transcript_formatFiles first, transcript_formatFiles second]
  refine ⟨?_, ?_, ?_⟩
  · simp only [namesOf, List.filterMap_append, streamText_append]
  · simp only [reportsOf, List.filterMap_append, streamText_append]
  · rw [List.any_append]
    cases before.any (hasFailed system escaping) <;>
      cases after.any (hasFailed system escaping) <;> simp

/-- A name that cannot be printed ends the run. -/
theorem transcript_formatFiles_of_refusal {name message : Text}
    (shown : ∀ file ∈ before, IsShown console system escaping file)
    (isName : outcome system escaping file = .ok name)
    (refused : console.refusal? name = some message) :
    (formatFiles system escaping (before ++ file :: after) false).transcript console remarks =
      ⟨streamText (namesOf system escaping before),
        streamText (reportsOf system remarks escaping before), .unprintable message⟩ := by
  have reportable : ∀ e, Source.load system (.ofText file) = .error e → e.isReported = true := by
    intro e fails
    simp [outcome, fails, Except.mapError, Except.bind] at isName
  have isRefused : ∀ text, console.refusalOf? (.line text) = console.refusal? text := fun _ ↦ rfl
  rw [transcript_formatFiles_append shown, formatFiles, formatFile_eq_outcome reportable, isName]
  simp [Run.transcript, Transcript.ofLog, isRefused, refused, Transcript.preceded]

end

/-! ### Runs -/

section

variable {console : Console} {system : FileSystem} {remarks : Remarks} {files : List Text}
  {config : OptionFile} {noEscape : Bool}

theorem format_of_options {options : Options} (settles : Settles system config (.ok options)) :
    format system files config noEscape =
      formatFiles system (options.escapeKeywords && !noEscape) files false := by
  rw [format, settles.resolveOptions_eq]
  rfl

theorem transcript_of_optionsError {error : OptionsLoadError}
    (settles : Settles system config (.error error)) :
    (format system files config noEscape).transcript console remarks =
      if error.isReported then
        ⟨[], "Error: " ++ error.report (remarks config.path) ++ "\n", .ended (.exit 1)⟩
      else ⟨[], [], .ended (.aborted (.options error))⟩ := by
  rw [format, settles.resolveOptions_eq]
  cases isReported : error.isReported <;>
    simp [Except.mapError, ofOptionsError, isReported, Run.transcript, Transcript.ofLog,
      Console.refusalOf?, Entry.output?, Entry.error?, streamText, errorLine]

/-- A run settles on options or on an error, and with an error it does nothing else.  With options it
displays or reports each file on its own, in their order, and fails when a file was reported; so it
can be split anywhere.  Where a name cannot be printed, it ends. -/
theorem format_file_by_file :
    let transcript := fun part ↦ (format system part config noEscape).transcript console remarks
    (config ≠ .absent → ∃ found, Settles system config found) ∧
    (∀ error, Settles system config (.error error) →
      transcript files =
        if error.isReported then
          ⟨[], "Error: " ++ error.report (remarks config.path) ++ "\n", .ended (.exit 1)⟩
        else ⟨[], [], .ended (.aborted (.options error))⟩) ∧
    ∀ options, Settles system config (.ok options) →
      let escaping := options.escapeKeywords && !noEscape
      ((∀ file ∈ files, IsShown console system escaping file) →
        ShowsEach system remarks escaping files (transcript files) ∧
        ∀ before after, files = before ++ after →
          IsSplit (transcript files) (transcript before) (transcript after)) ∧
      ∀ before file after name message, files = before ++ file :: after →
        (∀ f ∈ before, IsShown console system escaping f) →
        outcome system escaping file = .ok name → console.refusal? name = some message →
        transcript files =
          ⟨streamText (namesOf system escaping before),
            streamText (reportsOf system remarks escaping before), .unprintable message⟩ := by
  intro transcript
  refine ⟨exists_settles, fun error settles ↦ transcript_of_optionsError settles, ?_⟩
  intro options settles escaping
  have runs (part : List Text) : transcript part =
      (formatFiles system escaping part false).transcript console remarks :=
    congrArg (Run.transcript console remarks) (format_of_options settles)
  refine ⟨fun shown ↦ ⟨?_, ?_⟩, ?_⟩
  · rw [runs]
    exact showsEach_formatFiles shown
  · rintro before after rfl
    rw [runs, runs, runs]
    exact isSplit_formatFiles shown
  · rintro before file after name message rfl shown isName refused
    rw [runs]
    exact transcript_formatFiles_of_refusal shown isName refused

end

/-- Files by their names, and nothing else. -/
def filesOf (contents : List (String × List UInt8)) : Reader := fun p ↦
  match contents.find? fun entry ↦ p = .ofText entry.1 with
  | some entry => .ok entry.2
  | none => .error .missing

/-- A parameter whose name is a keyword. -/
def classFile : String × List UInt8 :=
  ("class.yaml", Utf8.encode "kind: parameter\nname: class")

/-- A parameter whose name is one character in Latin-1. -/
def latinFile : String × List UInt8 :=
  ("latin.yaml", Utf8.encode "kind: parameter\nname: " ++ [0xE9, 0x0A])

/-- Among others a name of two surrogates, and a text that is not YAML. -/
def samples : Reader :=
  filesOf
    [classFile, latinFile, ("open.yaml", Utf8.encode "["),
      ("pair.yaml", Utf8.encode "kind: parameter\nname: \"\\ud83d\\ude00\""),
      (".sharpname.yaml", Utf8.encode "escape-keywords: false"),
      ("marked.yaml", Utf8.encode "escape-keywords: true"),
      ("typo.yaml", Utf8.encode "escape-keyword: true")]

/-- Everything is there, and nothing may be read. -/
def locked : FileSystem where
  look _ := .ok ()
  read _ := .error (.refused .accessDenied)

/-- Keywords are marked unless the option file that is there or the flag says no.  An option file that
is wrong or cannot be read is reported even where the flag overrides it.  One in Latin-1 ends the
run, and so do the surrogates. -/
theorem format_samples :
    let remarks : Remarks := fun _ ↦ some "not closed"
    let transcript := fun system files config noEscape ↦
      (format system files config noEscape).transcript .utf8 remarks
    Settles samples .standard (.ok ⟨false⟩) ∧
      transcript samples ["class.yaml", "open.yaml", "class.yaml"] .standard false =
        ⟨"class\nclass\n",
          "Error: open.yaml: Invalid YAML in descriptor 'open.yaml': not closed\n",
          .ended (.exit 1)⟩ ∧
      transcript samples ["class.yaml"] (.named "marked.yaml") false =
        ⟨"@class\n", [], .ended (.exit 0)⟩ ∧
      transcript samples ["class.yaml"] (.named "marked.yaml") true =
        ⟨"class\n", [], .ended (.exit 0)⟩ ∧
      transcript samples ["class.yaml"] (.named "typo.yaml") true =
        ⟨[], "Error: typo.yaml: unknown field(s): escape-keyword\n", .ended (.exit 1)⟩ ∧
      transcript locked ["class.yaml"] .standard true =
        ⟨[], "Error: Cannot read config file: [Errno 13] Permission denied: '.sharpname.yaml'\n",
          .ended (.exit 1)⟩ ∧
      transcript samples ["class.yaml"] (.named "latin.yaml") true =
        ⟨[], [], .ended (.aborted (.options (.undecodable ⟨0xE9, 22, 23, .invalidContinuation⟩)))⟩ ∧
      transcript samples ["class.yaml", "pair.yaml", "class.yaml"] (.named "marked.yaml") false =
        ⟨"@class\n", [], .unprintable ("'utf-8' codec can't encode characters in position 0-1: " ++
          "surrogates not allowed")⟩ := by
  intro remarks transcript
  have standard : Settles samples .standard (.ok ⟨false⟩) :=
    .standard (by decide +kernel) (Options.gives_iff.2 (by decide +kernel))
  have marked : Settles samples (.named "marked.yaml") (.ok ⟨true⟩) :=
    .named (Options.gives_iff.2 (by decide +kernel))
  have typo : Settles samples (.named "typo.yaml")
      (.error (.options (.unknownFields "typo.yaml" ["escape-keyword"]))) :=
    .named (Options.gives_iff.2 (by decide +kernel))
  have denied : Settles locked .standard
      (.error (.unreadable (.ofText Options.defaultFile) (.refused .accessDenied))) :=
    .standard rfl (Options.gives_iff.2 (by decide +kernel))
  have latin : Settles samples (.named "latin.yaml")
      (.error (.undecodable ⟨0xE9, 22, 23, .invalidContinuation⟩)) :=
    .named (Options.gives_iff.2 (by decide +kernel))
  have isPlain : outcome samples false "class.yaml" = .ok "class" := by decide +kernel
  have isMarked : outcome samples true "class.yaml" = .ok "@class" := by decide +kernel
  have plain : IsShown .utf8 samples false "class.yaml" := isShown_of_name isPlain (by decide +kernel)
  have escaped : IsShown .utf8 samples true "class.yaml" :=
    isShown_of_name isMarked (by decide +kernel)
  refine ⟨standard, ?_, ?_, ?_, ?_, ?_, ?_, ?_⟩
  · have isOpen : outcome samples false "open.yaml" =
        .error (.load (.source (.malformed "open.yaml"))) := by
      decide +kernel
    have shown : ∀ file ∈ [("class.yaml" : Text), "open.yaml", "class.yaml"],
        IsShown .utf8 samples false file := by
      simp [plain, isShown_of_loadError isOpen rfl]
    obtain ⟨-, -, run⟩ := @format_file_by_file .utf8 samples remarks
      ["class.yaml", "open.yaml", "class.yaml"] .standard false
    obtain ⟨shows, -⟩ := (run _ standard).1 shown
    refine (shows.eq_of_fault (by simp) isOpen).trans ?_
    simp only [namesOf, reportsOf, reportOf?, List.filterMap_cons, Bool.not_false, Bool.and_true,
      isPlain, isOpen]
    decide +kernel
  · obtain ⟨-, -, run⟩ := @format_file_by_file .utf8 samples remarks ["class.yaml"]
      (.named "marked.yaml") false
    obtain ⟨shows, -⟩ := (run _ marked).1 (List.forall_mem_singleton.2 escaped)
    refine (shows.eq_of_names (List.forall_mem_singleton.2 ⟨_, isMarked⟩)).trans ?_
    simp only [namesOf, reportsOf, reportOf?, List.filterMap_cons, Bool.not_false, Bool.and_true,
      isMarked]
    rfl
  · obtain ⟨-, -, run⟩ := @format_file_by_file .utf8 samples remarks ["class.yaml"]
      (.named "marked.yaml") true
    obtain ⟨shows, -⟩ := (run _ marked).1 (List.forall_mem_singleton.2 plain)
    refine (shows.eq_of_names (List.forall_mem_singleton.2 ⟨_, isPlain⟩)).trans ?_
    simp only [namesOf, reportsOf, reportOf?, List.filterMap_cons, Bool.not_true, Bool.and_false,
      isPlain]
    rfl
  · obtain ⟨-, refused, -⟩ := @format_file_by_file .utf8 samples remarks ["class.yaml"]
      (.named "typo.yaml") true
    exact (refused _ typo).trans (by decide +kernel)
  · obtain ⟨-, refused, -⟩ := @format_file_by_file .utf8 locked remarks ["class.yaml"] .standard true
    exact (refused _ denied).trans (by decide +kernel)
  · obtain ⟨-, refused, -⟩ := @format_file_by_file .utf8 samples remarks ["class.yaml"]
      (.named "latin.yaml") true
    exact refused _ latin
  · obtain ⟨-, -, run⟩ := @format_file_by_file .utf8 samples remarks
      ["class.yaml", "pair.yaml", "class.yaml"] (.named "marked.yaml") false
    have isPair : outcome samples true "pair.yaml" =
        .ok [.surrogate 0xD83D, .surrogate 0xDE00] := by
      decide +kernel
    refine ((run _ marked).2 ["class.yaml"] "pair.yaml" ["class.yaml"] _ _ rfl
      (List.forall_mem_singleton.2 escaped) isPair rfl).trans ?_
    simp only [namesOf, reportsOf, reportOf?, List.filterMap_cons, Bool.not_false, Bool.and_true,
      isMarked]
    decide +kernel

end CommandLine
end TypeDisplay
