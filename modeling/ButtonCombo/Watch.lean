import ButtonCombo.Config
import ButtonCombo.GamePad
import ButtonCombo.KeyMap
import ButtonCombo.Recognizer
import ButtonCombo.StopSignal

/-!
# Watching the keyboard

The keyboard is read tick by tick.  All keys that are struck within a tick are pressed on
the pad together; a key that quits ends the watch at once, and with it the tick: neither
the keys before it in that tick nor those after it count.  A watch also ends when it is
interrupted from outside, which happens here when no more ticks are left.

The status is drawn at the start and after every tick with input, which is reported first.
A completion is reported before that and, if so configured, rings the bell.

Main facts:

* `readTick_cons_quit`, `readTick_cons_key`, `readTick_cons_other`: what one event adds to
  a tick;
* `follow_nil`, `follow_quit`: the two ways in which a watch ends;
* `follow_tick`: any other group of keys is one tick.
-/

namespace ButtonCombo
namespace Watch

/-- What happens to a key: it goes down, it repeats while it is held, or it is let go. -/
inductive KeyAction
  | press
  | repetition
  | release
  deriving DecidableEq

/-- What a terminal sends: something that happens to a key, or anything else. -/
inductive TerminalEvent
  | key (event : KeyEvent) (action : KeyAction)
  | other
  deriving DecidableEq

/-- The key that is struck, if any; to let a key go is not to strike it. -/
def TerminalEvent.struck? : TerminalEvent → Option KeyEvent
  | key event .press => some event
  | key event .repetition => some event
  | _ => none

/-- What a terminal sends when a key is pressed.  Control with a letter is sent as one
byte: the case of the letter is lost, and two of the letters share their byte with the
tab and the enter key. -/
def TerminalEvent.ofPress (press : KeyEvent) : TerminalEvent :=
  match press.key with
  | .char c =>
      if .control ∈ press.modifiers ∧ c.isAlpha then
        let others := press.modifiers.erase .control
        match c.toLower with
        | 'i' => key { key := .tab, modifiers := others } .press
        | 'm' => key { key := .enter, modifiers := others } .press
        | letter => key { press with key := .char letter } .press
      else key press .press
  | _ => key press .press

/-- The keys of one tick: the buttons they press, and whether one of them quits. -/
structure TickInput where
  pressed : Mask := .empty
  quit : Bool := false
  deriving DecidableEq

/-- Read the events of a tick after some buttons have been pressed. -/
def readTick
    (map : KeyMap)
    (pressed : Mask) : List TerminalEvent → TickInput
  | [] => { pressed }
  | event :: rest =>
      match event.struck? with
      | none => readTick map pressed rest
      | some key =>
          if key.isQuit then { pressed, quit := true }
          else readTick map (pressed ||| (map.lookup key).getD .empty) rest

/-- What is reported during a watch. -/
inductive Event
  | recognizer (event : Recognizer.Event Mask)
  | entered (completions : Nat)
  | ticked (step : Recognizer.Step) (pressed : Mask)
  | interrupted
  | stopped (completions : Nat)

/-- What a watch does to its surroundings. -/
inductive Act
  | report (event : Event)
  | ring
  | draw (status : String)

/-- The pad, the recognizer and the stop signal of a watch. -/
structure State where
  pad : GamePad := .new
  recognizer : Recognizer Mask
  signal : StopSignal := {}

/-- Draw the status of a recognizer. -/
def draw
    (config : Config)
    (r : Recognizer Mask) : Act :=
  .draw (statusLine r.progress r.length r.active config.indicator)

/-- What the callback does once the sequence is completed: the report and the bell. -/
def callback
    (config : Config)
    (r : Recognizer Mask) : List Act :=
  .report (.entered r.completions) :: if config.chime then [.ring] else []

/-- What follows a step of the recognizer: after a completion what the callback does, and
after any step but an idle one the report of the tick and the drawing. -/
def react
    (config : Config)
    (r : Recognizer Mask)
    (pressed : Mask) : Recognizer.Step → List Act
  | .idle => []
  | .completed => callback config r ++ [.report (.ticked .completed pressed), draw config r]
  | step => [.report (.ticked step pressed), draw config r]

/-- One tick with the given buttons pressed. -/
def tick
    (config : Config)
    (s : State)
    (pressed : Mask) : Except Recognizer.Error (State × List Act) :=
  let pad := s.pad.press pressed
  (s.recognizer.advance pad.sample).map fun (next, step, events) =>
    ({ s with pad, recognizer := next },
     events.map (fun event => Act.report (.recognizer event)) ++
       react config next pressed step)

/-- Tick by tick until a key quits, or until the watch is interrupted. -/
def follow
    (config : Config)
    (map : KeyMap)
    (s : State) :
    List (List TerminalEvent) → Except Recognizer.Error (State × List Act)
  | [] => .ok ({ s with signal := s.signal.raise }, [.report .interrupted])
  | group :: groups =>
      let input := readTick map .empty group
      if input.quit then .ok ({ s with signal := s.signal.raise }, [])
      else
        match tick config s input.pressed with
        | .error error => .error error
        | .ok (next, acts) =>
            (follow config map next groups).map fun (last, more) => (last, acts ++ more)

/-- The parts of the recognizer of a watch: the sequence, the one pad and the one
callback. -/
def draft (config : Config) : Recognizer.Draft Mask where
  sequence := some config.sequence
  source := some 0
  callback := some (.owned 0)

/-- A recognizer for the configured sequence, and what its set-up reports. -/
def start (config : Config) : Except Recognizer.Error (State × List Act) :=
  (draft config).build.map fun (r, events) =>
    ({ recognizer := r }, events.map fun event => .report (.recognizer event))

/-- A whole watch: the state in the end and everything that was done. -/
def run
    (config : Config)
    (map : KeyMap)
    (groups : List (List TerminalEvent)) :
    Except Recognizer.Error (State × List Act) :=
  match start config with
  | .error error => .error error
  | .ok (s, acts) =>
      (follow config map s groups).map fun (last, more) =>
        (last,
         acts ++ draw config s.recognizer :: more ++
           [.report (.stopped last.recognizer.completions)])

/-- An event that strikes no key adds nothing. -/
theorem readTick_cons_other
    {map : KeyMap}
    {pressed : Mask}
    {event : TerminalEvent}
    (h : event.struck? = none)
    (rest : List TerminalEvent) :
    readTick map pressed (event :: rest) = readTick map pressed rest := by
  simp [readTick, h]

theorem readTick_cons_quit
    {map : KeyMap}
    {pressed : Mask}
    {event : TerminalEvent}
    {key : KeyEvent}
    (h : event.struck? = some key)
    (hquit : key.isQuit = true)
    (rest : List TerminalEvent) :
    readTick map pressed (event :: rest) = { pressed, quit := true } := by
  simp [readTick, h, hquit]

/-- A key that does not quit presses its buttons, if it is bound. -/
theorem readTick_cons_key
    {map : KeyMap}
    {pressed : Mask}
    {event : TerminalEvent}
    {key : KeyEvent}
    (h : event.struck? = some key)
    (hquit : key.isQuit = false)
    (rest : List TerminalEvent) :
    readTick map pressed (event :: rest) =
      readTick map (pressed ||| (map.lookup key).getD .empty) rest := by
  simp [readTick, h, hquit]

@[simp] theorem follow_nil
    (config : Config)
    (map : KeyMap)
    (s : State) :
    follow config map s [] =
      .ok ({ s with signal := s.signal.raise }, [.report .interrupted]) := by
  rfl

/-- A key that quits ends the watch, whatever else its tick holds. -/
theorem follow_quit
    (config : Config)
    {map : KeyMap}
    (s : State)
    {group : List TerminalEvent}
    (h : (readTick map .empty group).quit = true)
    (groups : List (List TerminalEvent)) :
    follow config map s (group :: groups) = .ok ({ s with signal := s.signal.raise }, []) := by
  simp [follow, h]

/-- A group of keys of which none quits is one tick, and the watch goes on. -/
theorem follow_tick
    {config : Config}
    {map : KeyMap}
    {s next : State}
    {group : List TerminalEvent}
    {acts : List Act}
    (hquit : (readTick map .empty group).quit = false)
    (htick : tick config s (readTick map .empty group).pressed = .ok (next, acts))
    (groups : List (List TerminalEvent)) :
    follow config map s (group :: groups) =
      (follow config map next groups).map fun (last, more) => (last, acts ++ more) := by
  simp [follow, hquit, htick]

end Watch
end ButtonCombo
