import ButtonCombo.Code
import ButtonCombo.Recognizer.Report
import ButtonCombo.Watch

/-!
# A watch on the screen and in the log

What a watch does shows on the screen and in the log, each in its own order.
-/

namespace ButtonCombo
namespace Watch

/-- The part of the program that watches report as. -/
def logTarget : String :=
  "padcode::commands::watch"

/-- The log record of an event. -/
def Event.record : Event → LogRecord
  | recognizer event => event.record Code.ofMask
  | entered completions =>
      { level := .info, target := logTarget, message := "Sequence entered"
        fields := [("completions", toString completions)] }
  | ticked step pressed =>
      { level := .debug, target := logTarget, message := "Tick"
        fields := [("step", step.describe), ("pressed", pressed.text)] }
  | interrupted =>
      { level := .info, target := "padcode::shutdown"
        message := "Received shutdown signal, stopping..." }
  | stopped completions =>
      { level := .info, target := logTarget, message := "Stopped watching"
        fields := [("completions", toString completions)] }

/-- The record of an act that is a report. -/
def Act.record? : Act → Option LogRecord
  | report event => some event.record
  | _ => none

/-- What an act puts on the screen.  A drawing starts at the first column of a cleared
line. -/
def Act.screen : Act → String
  | report _ => ""
  | ring => "\x07"
  | draw status => "\x1b[1G\x1b[2K" ++ status

/-- The two lines that stand above the drawings. -/
def heading (config : Config) : String :=
  "Enter the sequence: " ++ ", ".intercalate (config.sequence.map Mask.text) ++
    "\n(Press Esc or q to quit)\n"

/-- The screen after a whole watch. -/
def screen
    (config : Config)
    (acts : List Act) : String :=
  heading config ++ String.join (acts.map Act.screen) ++ "\n"

end Watch
end ButtonCombo
