import ButtonCombo.GamePad
import ButtonCombo.Recognizer
import ButtonCombo.Script

/-!
# Replays

A replay feeds recorded ticks to a recognizer: every frame is pressed on a pad and the
recognizer takes one sample of it.  The report counts the ticks and names those, from
one on, at which the sequence was completed.
-/

namespace ButtonCombo
namespace Replay

/-- The outcome of a replay. -/
structure Report where
  ticks : Nat
  completions : List Nat
  active : Bool
  finalProgress : Nat
  deriving DecidableEq

/-- What is reported during a replay: the recognizer's own events, each completion,
and each loss of progress with its tick. -/
inductive Event
  | recognizer (event : Recognizer.Event Mask)
  | completed (completions : Nat)
  | broken (tick lost : Nat)

/-- The pad and the recognizer of a replay, and how many ticks have passed. -/
structure State where
  pad : GamePad := .new
  recognizer : Recognizer Mask
  ticks : Nat := 0

/-- What a replay adds after the recognizer has taken its sample. -/
def remarks
    (tick : Nat)
    (r : Recognizer Mask) : Recognizer.Step → List Event
  | .reset lost => if 0 < lost then [.broken tick lost] else []
  | .completed => [.completed r.completions]
  | _ => []

/-- One tick: the state after it, the ticks it completes (itself or none), and what is
reported. -/
def tick
    (s : State)
    (frame : Frame) :
    Except Recognizer.Error (State × List Nat × List Event) :=
  let pad := s.pad.press (frame.getD .empty)
  (s.recognizer.advance pad.sample).map fun (next, step, events) =>
    ({ pad, recognizer := next, ticks := s.ticks + 1 },
     if step = .completed then [s.ticks + 1] else [],
     events.map .recognizer ++ remarks (s.ticks + 1) next step)

/-- A list of ticks: the state in the end, the completed ticks, and the reports. -/
def follow
    (s : State) :
    List Frame → Except Recognizer.Error (State × List Nat × List Event)
  | [] => .ok (s, [], [])
  | frame :: frames =>
      match tick s frame with
      | .error error => .error error
      | .ok (next, done, events) =>
          (follow next frames).map fun (last, moreDone, moreEvents) =>
            (last, done ++ moreDone, events ++ moreEvents)

/-- The parts of the recognizer of a replay: the sequence, the one pad and the one
callback. -/
def draft (sequence : List Mask) : Recognizer.Draft Mask where
  sequence := some sequence
  source := some 0
  callback := some (.owned 0)

/-- Replay the frames: the report and everything that was reported on the way. -/
def run
    (sequence : List Mask)
    (frames : List Frame) :
    Except Recognizer.Error (Report × List Event) :=
  match (draft sequence).build with
  | .error error => .error error
  | .ok (r, events) =>
      (follow { recognizer := r } frames).map fun (last, completions, more) =>
        ({ ticks := frames.length
           completions
           active := last.recognizer.active
           finalProgress := last.recognizer.progress },
         events.map .recognizer ++ more)

/-- The report of a replay. -/
def report
    (sequence : List Mask)
    (frames : List Frame) :
    Except Recognizer.Error Report :=
  (run sequence frames).map Prod.fst

@[simp] theorem follow_nil
    (s : State) :
    follow s [] = .ok (s, [], []) := by
  rfl

end Replay
end ButtonCombo
