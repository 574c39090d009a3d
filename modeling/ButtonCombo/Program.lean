import ButtonCombo.CommandLine
import ButtonCombo.Directory
import ButtonCombo.KeyMap.Listing
import ButtonCombo.Log
import ButtonCombo.Replay.Print
import ButtonCombo.Text.Literal
import ButtonCombo.Watch.Print

/-!
# The program

A run of the program: the command line is read, then the configuration, then the
command is carried out.  What a run leaves behind is its exit code, what it printed,
what it logged, and the error it ended with, if any.

Without a terminal the keyboard cannot be watched; the program notices once it has
printed what to enter.
-/

namespace ButtonCombo
namespace Program

/-- Why a run fails. -/
inductive Error
  | readConfig (path : String) (cause : ReadError)
  | invalidConfig (path : String) (cause : Config.Error)
  | sequence (cause : Config.OverrideError)
  | keyMap (cause : KeyMap.Error)
  | readScript (path : String) (cause : ReadError)
  | invalidScript (path : String) (cause : Script.Error)
  | recognizer (cause : Recognizer.Error)
  | noTerminal

namespace Error

/-- The error in words, the general part first, as far as the wording is the program's
own: of a document that cannot be read, or does not fit, and of a missing terminal only
the general part is. -/
def chain : Error → List String
  | readConfig path cause => ["Failed to read config " ++ path, cause.message]
  | invalidConfig path (.invalid flaw) => ["Invalid config " ++ path, flaw.message]
  | invalidConfig path _ => ["Invalid config " ++ path]
  | sequence cause => cause.chain
  | keyMap cause => [cause.message]
  | readScript path cause => ["Failed to read script " ++ path, cause.message]
  | invalidScript path cause => ["Invalid script " ++ path, cause.message]
  | recognizer cause => [cause.message]
  | noTerminal => ["Failed to enable raw terminal mode"]

/-- The general part. -/
def message (error : Error) : String :=
  error.chain.headD ""

/-- A text with something in front of its first line and something in front of each
further line. -/
def indent
    (first further text : String) : String :=
  first ++ ("\n" ++ further).intercalate (text.splitOn "\n")

/-- The causes as they are printed below the general part, if there are any.  A single
cause is indented, several are numbered. -/
def causes? (error : Error) : Option String :=
  match error.chain.drop 1 with
  | [] => none
  | [cause] => some (indent "    " "    " cause)
  | causes =>
      let numbered := (List.range causes.length).zip causes
      some ("\n".intercalate (numbered.map fun (n, cause) =>
        indent ("    " ++ toString n ++ ": ") "       " cause))

/-- The whole report of an error. -/
def report (error : Error) : String :=
  "Error: " ++ error.message ++
    match error.causes? with
    | none => "\n"
    | some causes => "\n\nCaused by:\n" ++ causes ++ "\n"

end Error

/-- What a run leaves behind. -/
structure Outcome where
  exitCode : Nat := 0
  output : String := ""
  log : List LogRecord := []
  error : Option Error := none

/-- A run that ends with an error of its own. -/
def Outcome.failed
    (log : List LogRecord)
    (output : String)
    (error : Error) : Outcome where
  exitCode := 1
  output := output
  log := log
  error := some error

/-- What a run finds around it: files, the sequence that the environment asks for, and
the terminal, if there is one, with all that it will send, tick by tick. -/
structure Surroundings where
  files : Files
  sequence : Option String := none
  terminal : Option (List (List Watch.TerminalEvent)) := none

/-- The part of the program that a run itself reports as. -/
def logTarget : String :=
  "padcode"

/-- The configuration under a path, or the default one if nothing is there, and the
record of which it is. -/
def loadConfig
    (files : Files)
    (path : String) : Except Error (Config × LogRecord) :=
  let shown := Text.Literal.ofString path
  if files.holds path then
    match files.readText path with
    | .error cause => .error (.readConfig path cause)
    | .ok text =>
        match Config.parse text with
        | .error cause => .error (.invalidConfig path cause)
        | .ok config =>
            .ok (config,
              { level := .info, target := logTarget, message := "Loaded config from " ++ shown })
  else
    .ok ({},
      { level := .warn, target := logTarget
        message := "Config " ++ shown ++ " not found, using defaults" })

/-- Watch the keyboard. -/
def watch
    (surroundings : Surroundings)
    (log : List LogRecord)
    (config : Config) : Outcome :=
  match KeyMap.withOverrides config.keys with
  | .error cause => .failed log "" (.keyMap cause)
  | .ok map =>
      match surroundings.terminal with
      | none => .failed log (Watch.heading config) .noTerminal
      | some groups =>
          match Watch.run config map groups with
          | .error cause => .failed log "" (.recognizer cause)
          | .ok (_, acts) =>
              { output := Watch.screen config acts
                log := log ++ acts.filterMap Watch.Act.record? }

/-- Replay a script. -/
def replay
    (files : Files)
    (log : List LogRecord)
    (config : Config)
    (path : String)
    (json : Bool) : Outcome :=
  match files.readText path with
  | .error cause => .failed log "" (.readScript path cause)
  | .ok text =>
      match Script.parse text with
      | .error cause => .failed log "" (.invalidScript path cause)
      | .ok frames =>
          match Replay.run config.sequence frames with
          | .error cause => .failed log "" (.recognizer cause)
          | .ok (report, events) =>
              { output := if json then report.json else report.text config.sequence.length
                log := log ++ events.map Replay.Event.record }

/-- List the buttons and their keys. -/
def buttons
    (log : List LogRecord)
    (config : Config) : Outcome :=
  match KeyMap.withOverrides config.keys with
  | .error cause => .failed log "" (.keyMap cause)
  | .ok map => { output := map.listing, log }

/-- Carry out a command. -/
def carryOut
    (surroundings : Surroundings)
    (log : List LogRecord)
    (config : Config) : Command → Outcome
  | .watch => watch surroundings log config
  | .replay path json => replay surroundings.files log config path json
  | .buttons => buttons log config

/-- Put the sequence of the command line, or else that of the environment, in place of
the configured one, and report it. -/
def overrideSequence
    (config : Config)
    (sequence : Option String) : Except Error (Config × List LogRecord) :=
  match sequence with
  | none => .ok (config, [])
  | some list =>
      match config.override list with
      | (config, .ok ()) =>
          let steps := toString config.sequence.length
          .ok (config,
            [{ level := .debug, target := logTarget
               message := "Sequence overridden: " ++ steps ++ " steps" }])
      | (_, .error cause) => .error (.sequence cause)

/-- A run with a command line that has been read. -/
def runLine
    (surroundings : Surroundings)
    (line : CommandLine) : Outcome :=
  match loadConfig surroundings.files line.config with
  | .error error => .failed [] "" error
  | .ok (config, record) =>
      match overrideSequence config (line.sequence.or surroundings.sequence) with
      | .error error => .failed [record] "" error
      | .ok (config, records) => carryOut surroundings (record :: records) config line.command

/-- A run of the program. -/
def run
    (surroundings : Surroundings)
    (arguments : List String) : Outcome :=
  match CommandLine.parse? arguments with
  | none => { exitCode := 2 }
  | some line => runLine surroundings line

/-- The lines of the log that are shown. -/
def Outcome.logLines (outcome : Outcome) : List String :=
  (outcome.log.filter (·.level.isShown)).map LogRecord.line

end Program
end ButtonCombo
