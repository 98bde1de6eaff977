import TypeDisplay.CommandLine

/-!
# Transcripts

What gets out of a run.  The output may refuse a text, as UTF-8 refuses surrogates; then the run
ends where it was about to say it, and is not heard any more.  The error stream takes every text,
since it writes an escape for what it cannot encode.
-/

namespace TypeDisplay
namespace CommandLine

structure Console where
  /-- Why a text cannot be printed. -/
  refusal? : Text → Option Text

namespace Console

def utf8 : Console where
  refusal? text :=
    match Utf8.encodeText text with
    | .ok _ => none
    | .error failure => some failure.message

/-- Why an entry is not said. -/
def refusalOf? (console : Console) (entry : Entry) : Option Text :=
  entry.output?.bind console.refusal?

end Console

inductive Close where
  | ended (ending : Ending)
  | unprintable (message : Text)
  deriving DecidableEq, Repr

structure Transcript where
  output : Text
  errors : Text
  close : Close
  deriving DecidableEq, Repr

/-- Every line of a stream ends in a line feed. -/
def streamText (lines : List Text) : Text :=
  lines.flatMap fun line ↦ line ++ "\n"

section

variable (console : Console) (remarks : Remarks)

def Transcript.ofLog (ending : Ending) : List Entry → Transcript
  | [] => ⟨[], [], .ended ending⟩
  | entry :: log =>
      match console.refusalOf? entry with
      | some message => ⟨[], [], .unprintable message⟩
      | none =>
          let rest := ofLog ending log
          { rest with
            output := streamText entry.output?.toList ++ rest.output
            errors := streamText (entry.error? remarks).toList ++ rest.errors }

def Run.transcript (run : Run) : Transcript :=
  .ofLog console remarks run.ending run.log

end

end CommandLine
end TypeDisplay
