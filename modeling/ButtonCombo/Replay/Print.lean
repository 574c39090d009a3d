import ButtonCombo.Replay
import ButtonCombo.Recognizer.Report
import ButtonCombo.Code

/-!
# Replays in print

The report of a replay as text and as JSON, and the log records of its events.
-/

namespace ButtonCombo
namespace Replay

/-- The part of the program that replays report as. -/
def logTarget : String :=
  "padcode::commands::replay"

/-- The log record of an event. -/
def Event.record : Event → LogRecord
  | recognizer event => event.record Code.ofMask
  | completed completions =>
      { level := .debug, target := logTarget, message := "Sequence completed"
        fields := [("completions", toString completions)] }
  | broken tick lost =>
      { level := .debug, target := logTarget, message := "Sequence broken"
        fields := [("tick", toString tick), ("lost", toString lost)] }

namespace Report

/-- A line per completion, and a last line with the counts. -/
def text
    (report : Report)
    (length : Nat) : String :=
  let lines := report.completions.map fun tick =>
    "Sequence completed at tick " ++ toString tick ++ "\n"
  String.join lines ++
    toString report.ticks ++ " ticks, " ++ toString report.completions.length ++
    " completion(s), progress " ++ toString report.finalProgress ++ "/" ++ toString length ++
    (if report.active then ", unlocked" else "") ++ "\n"

/-- The report as a JSON object, indented by two spaces a level. -/
def json (report : Report) : String :=
  let completions :=
    if report.completions.isEmpty then "[]"
    else
      "[\n" ++ ",\n".intercalate (report.completions.map fun tick => "    " ++ toString tick) ++
        "\n  ]"
  let fields :=
    [("ticks", toString report.ticks), ("completions", completions),
     ("active", toString report.active), ("final_progress", toString report.finalProgress)]
  "\x7b\n" ++
    ",\n".intercalate (fields.map fun (name, value) => "  \"" ++ name ++ "\": " ++ value) ++
    "\n\x7d\n"

end Report
end Replay
end ButtonCombo
