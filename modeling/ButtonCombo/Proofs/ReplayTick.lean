import ButtonCombo.Proofs.Tick
import ButtonCombo.Replay

/-!
# The ticks of a replay

A frame is busy if some button goes down in it; the pad gives a sample in the busy ticks
and in no other.  A replay of a nonempty sequence is never refused.

Main facts:

* `busyTicks_cons`: the busy ticks of a list of frames, from its first frame on;
* `follow_cons`: a replay is its first tick and the replay that is left;
* `run_of_follow`: the report is made of the state in which the frames leave the fresh
  recognizer.
-/

namespace ButtonCombo

/-- Some button goes down in the frame. -/
def Frame.isBusy (frame : Frame) : Bool :=
  !(frame.getD .empty).isEmpty

/-- The ticks with a busy frame, counted from one. -/
def Frame.busyTicks (frames : List Frame) : List Nat :=
  ((frames.zipIdx 1).filter fun tick => isBusy tick.1).map Prod.snd

namespace Frame

/-- The pad gives no sample exactly in a frame that is not busy. -/
theorem sample_press_eq_none_iff
    (pad : GamePad)
    (frame : Frame) :
    (pad.press (frame.getD .empty)).sample = none ↔ isBusy frame = false := by
  cases hempty : (frame.getD .empty).isEmpty <;> simp [isBusy, GamePad.press, GamePad.sample, hempty]

theorem busyTicks_cons
    (frame : Frame)
    (frames : List Frame) :
    busyTicks (frame :: frames) =
      (if isBusy frame then [1] else []) ++ (busyTicks frames).map (· + 1) := by
  have hshift : frames.zipIdx 2 = (frames.zipIdx 1).map fun tick => (tick.1, tick.2 + 1) :=
    List.zipIdx_succ
  have hrest : ((frames.zipIdx 2).filter fun tick => isBusy tick.1).map Prod.snd =
      (busyTicks frames).map (· + 1) := by
    rw [hshift, List.filter_map, List.map_map, busyTicks, List.map_map]
    rfl
  rw [busyTicks, List.zipIdx_cons, List.filter_cons, ← hrest]
  cases isBusy frame <;> rfl

/-- There is one busy tick for every busy frame. -/
theorem length_busyTicks
    (frames : List Frame) :
    (busyTicks frames).length = frames.countP isBusy := by
  induction frames with
  | nil => rfl
  | cons frame frames ih =>
      rw [busyTicks_cons, List.length_append, List.length_map, ih, List.countP_cons]
      cases isBusy frame <;> simp [Nat.add_comm]

end Frame

namespace Replay

/-- The first tick of a replay and the replay that is left. -/
theorem follow_cons
    {s next last : State}
    {frame : Frame}
    {frames : List Frame}
    {done moreDone : List Nat}
    {events moreEvents : List Event}
    (hfirst : tick s frame = .ok (next, done, events))
    (hrest : follow next frames = .ok (last, moreDone, moreEvents)) :
    follow s (frame :: frames) = .ok (last, done ++ moreDone, events ++ moreEvents) := by
  simp only [follow, hfirst, hrest, Except.map]

/-- The recognizer of a replay before its first tick. -/
def fresh (sequence : List Mask) : Recognizer Mask where
  sequence := sequence
  source := some 0
  callback := some (.owned 0)

theorem build_draft
    {sequence : List Mask}
    (hne : sequence ≠ []) :
    (draft sequence).build = .ok (fresh sequence, [.configured sequence.length]) :=
  Recognizer.configure_fresh rfl hne 0 (.owned 0)

theorem isConfigured_fresh
    {sequence : List Mask}
    (hne : sequence ≠ []) :
    (fresh sequence).isConfigured = true :=
  Recognizer.isConfigured_of_parts?
    (Recognizer.parts?_eq_some_iff.mpr ⟨hne, rfl, rfl⟩)

/-- The report of a replay is made of the state in which the frames leave the fresh
recognizer. -/
theorem report_of_follow
    {sequence : List Mask}
    (hne : sequence ≠ [])
    {frames : List Frame}
    {last : State}
    {done : List Nat}
    {events : List Event}
    (h : follow { recognizer := fresh sequence } frames = .ok (last, done, events)) :
    report sequence frames =
      .ok
        { ticks := frames.length
          completions := done
          active := last.recognizer.active
          finalProgress := last.recognizer.progress } := by
  simp only [report, run, build_draft hne, h, Except.map]

end Replay
end ButtonCombo
