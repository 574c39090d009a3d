/-!
# Log records

What the program reports about itself: a level, the part of the program that
reports, a message and named values.
-/

namespace ButtonCombo

/-- How much a record matters, from the least to the most. -/
inductive LogLevel
  | trace
  | debug
  | info
  | warn
  deriving DecidableEq

namespace LogLevel

/-- The level in print. -/
def name : LogLevel → String
  | trace => "TRACE"
  | debug => "DEBUG"
  | info => "INFO"
  | warn => "WARN"

/-- The levels that the program shows: `info` and what matters more. -/
def isShown : LogLevel → Bool
  | trace | debug => false
  | info | warn => true

end LogLevel

/-- One record of the log. -/
structure LogRecord where
  level : LogLevel
  target : String
  message : String
  fields : List (String × String) := []
  deriving DecidableEq

namespace LogRecord

/-- The record as one line: level, target, message, then the named values. -/
def line (record : LogRecord) : String :=
  " ".intercalate <|
    [record.level.name, record.target ++ ":", record.message] ++
      record.fields.map fun (name, value) => name ++ "=" ++ value

end LogRecord
end ButtonCombo
