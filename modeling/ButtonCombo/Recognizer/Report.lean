import ButtonCombo.Recognizer
import ButtonCombo.Log

/-!
# Recognizers in print

The log record of each event, the printed form of a step, and the description of a
recognizer with all its fields.  What shows a code takes its printed form as a parameter.
-/

namespace ButtonCombo
namespace Recognizer

variable {C : Type}

/-- The part of the program that recognizers report as. -/
def logTarget : String :=
  "padcode_core::recognizer"

/-- The log record of an event. -/
def Event.record
    (code : C → String) : Event C → LogRecord
  | configured length =>
      { level := .debug, target := logTarget, message := "Configured input sequence"
        fields := [("len", toString length)] }
  | unconfigured =>
      { level := .debug, target := logTarget, message := "Input sequence unconfigured" }
  | matched progress length =>
      { level := .trace, target := logTarget, message := "Input matched"
        fields := [("progress", toString progress), ("len", toString length)] }
  | broken sample expected lost =>
      { level := .debug, target := logTarget, message := "Wrong input, sequence reset"
        fields :=
          [("sample", code sample), ("expected", code expected), ("lost", toString lost)] }
  | completed completions =>
      { level := .info, target := logTarget, message := "Input sequence completed"
        fields := [("completions", toString completions)] }

/-- A step with what it tells. -/
def Step.describe : Step → String
  | idle => "Idle"
  | matched progress => "Matched \x7b progress: " ++ toString progress ++ " \x7d"
  | reset lost => "Reset \x7b lost: " ++ toString lost ++ " \x7d"
  | completed => "Completed"

/-- The recognizer with all its fields, on one line. -/
def describe
    (code : C → String)
    (r : Recognizer C) : String :=
  let fields :=
    [("sequence", "[" ++ ", ".intercalate (r.sequence.map code) ++ "]"),
     ("progress", toString r.progress),
     ("has_input", toString r.source.isSome),
     ("has_callback", toString r.callback.isSome),
     ("active", toString r.active),
     ("completions", toString r.completions)]
  "SequenceRecognizer \x7b " ++
    ", ".intercalate (fields.map fun (name, value) => name ++ ": " ++ value) ++ " \x7d"

end Recognizer
end ButtonCombo
