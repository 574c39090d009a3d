/-!
# The command line

Two options come before the command: where the configuration is, and a sequence in
place of the configured one.  Each is given at most once, by a long or a short name,
with its value attached or as the next argument; a next argument that looks like an
option is no value.  A path is never empty.

The command is to watch the keyboard, to replay a script, or to list the buttons;
without a command the keyboard is watched.  Behind two dashes nothing is an option.

A command line that does not follow these rules has no reading.
-/

namespace ButtonCombo

/-- What the program is asked to do. -/
inductive Command
  | watch
  | replay (script : String) (json : Bool)
  | buttons
  deriving DecidableEq

/-- Where the configuration is unless an option says otherwise. -/
def defaultConfigPath : String :=
  "padcode.toml"

/-- A command line that has been read. -/
structure CommandLine where
  config : String := defaultConfigPath
  sequence : Option String := none
  command : Command := .watch
  deriving DecidableEq

namespace CommandLine

/-- The paths under which a run may read: the configuration and the script. -/
def paths (line : CommandLine) : List String :=
  match line.command with
  | .replay script _ => [line.config, script]
  | .watch | .buttons => [line.config]

/-- The form of an argument: two dashes, a long option with the value attached to it,
a short option with what follows its letter, or anything else. -/
inductive Argument
  | dashes
  | long (name : List Char) (value : Option (List Char))
  | short (letter : Char) (rest : List Char)
  | word

/-- The form of an argument. -/
def Argument.of (text : String) : Argument :=
  match text.toList with
  | ['-', '-'] => dashes
  | '-' :: '-' :: name =>
      match name.dropWhile (· != '=') with
      | [] => long name none
      | _ :: value => long (name.takeWhile (· != '=')) (some value)
  | '-' :: letter :: rest => short letter rest
  | _ => word

/-- The value attached to a short option; an equals sign may stand before it. -/
def attached? : List Char → Option (List Char)
  | [] => none
  | '=' :: value => some value
  | value => some value

/-- The two options. -/
inductive Setting
  | config
  | sequence
  deriving DecidableEq

/-- The option with a long name. -/
def Setting.ofName? (name : List Char) : Option Setting :=
  if name = "config".toList then some config
  else if name = "sequence".toList then some sequence
  else none

/-- The option with a short name. -/
def Setting.ofLetter? : Char → Option Setting
  | 'c' => some config
  | 's' => some sequence
  | _ => none

/-- The option that an argument is, and the value attached to it. -/
def Argument.setting? : Argument → Option (Setting × Option (List Char))
  | long name value => (Setting.ofName? name).map fun setting => (setting, value)
  | short letter rest => (Setting.ofLetter? letter).map fun setting => (setting, attached? rest)
  | _ => none

/-- The options that have been read. -/
structure Settings where
  config : Option String := none
  sequence : Option String := none

/-- Take up the value of an option. -/
def Settings.set
    (s : Settings) :
    Setting → String → Option Settings
  | .config, path =>
      if s.config.isSome ∨ path = "" then none else some { s with config := some path }
  | .sequence, list =>
      if s.sequence.isSome then none else some { s with sequence := some list }

/-- The whole command line, given its command. -/
def Settings.line
    (s : Settings)
    (command : Command) : CommandLine where
  config := s.config.getD defaultConfigPath
  sequence := s.sequence
  command := command

/-- The arguments of a replay: the script, and whether the report is wanted as JSON.
The flag says that two dashes have been read. -/
def readReplay
    (dashed : Bool)
    (script : Option String)
    (json : Bool) : List String → Option Command
  | [] => script.map fun path => .replay path json
  | text :: rest =>
      let path :=
        if script.isSome ∨ text = "" then none else readReplay dashed (some text) json rest
      if dashed then path
      else
        match Argument.of text with
        | .dashes => readReplay true script json rest
        | .long name value =>
            if name = "json".toList ∧ value = none ∧ !json then
              readReplay dashed script true rest
            else none
        | .short _ _ => none
        | .word => path

/-- A command without arguments of its own. -/
def readPlain
    (command : Command) : List String → Option Command
  | [] | ["--"] => some command
  | _ => none

/-- The command of that name, with its arguments. -/
def readCommand
    (name : String)
    (arguments : List String) : Option Command :=
  match name with
  | "watch" => readPlain .watch arguments
  | "buttons" => readPlain .buttons arguments
  | "replay" => readReplay false none false arguments
  | _ => none

/-- An argument that may be the value of the option before it. -/
def isValue (text : String) : Bool :=
  match Argument.of text with
  | .word => true
  | _ => false

/-- The options and the command. -/
def read
    (s : Settings) : List String → Option CommandLine
  | [] => some (s.line .watch)
  | text :: rest =>
      match Argument.of text with
      | .word => (readCommand text rest).map s.line
      | .dashes => if rest.isEmpty then some (s.line .watch) else none
      | argument =>
          match argument.setting? with
          | none => none
          | some (setting, some value) =>
              match s.set setting (String.ofList value) with
              | none => none
              | some s => read s rest
          | some (setting, none) =>
              match rest with
              | [] => none
              | value :: rest =>
                  match if isValue value then s.set setting value else none with
                  | none => none
                  | some s => read s rest

/-- Read a command line. -/
def parse? (arguments : List String) : Option CommandLine :=
  read {} arguments

end CommandLine
end ButtonCombo
