import ButtonCombo.Proofs.ReplayTick

/-!
# Replays by their progress

What a frame does to a replay depends on the progress alone: a frame that is not busy
keeps it, the expected mask moves it on or completes the sequence, and any other mask
drops it.  So the report of a replay can be computed without a pad and a recognizer, by
`progressAfter` and `completedTicks`.

Main facts:

* `Reached.tick`: a tick of a replay as a move of the progress;
* `Reached.follow`: a replay as a run of such moves;
* `report_eq`: the report of a replay, computed from its frames.
-/

namespace ButtonCombo
namespace Replay

/-- The frame enters the last mask of the sequence. -/
def completes
    (sequence : List Mask)
    (progress : Nat)
    (frame : Frame) : Bool :=
  Frame.isBusy frame && sequence[progress]? == frame && progress + 1 == sequence.length

/-- The progress after one more frame. -/
def moved
    (sequence : List Mask)
    (progress : Nat)
    (frame : Frame) : Nat :=
  if Frame.isBusy frame then
    if sequence[progress]? = frame ∧ progress + 1 < sequence.length then progress + 1 else 0
  else progress

/-- The progress after more frames. -/
def progressAfter
    (sequence : List Mask)
    (progress : Nat)
    (frames : List Frame) : Nat :=
  frames.foldl (moved sequence) progress

/-- The frames that complete the sequence, counted from one. -/
def completedTicks
    (sequence : List Mask)
    (progress : Nat) : List Frame → List Nat
  | [] => []
  | frame :: frames =>
      (if completes sequence progress frame then [1] else []) ++
        (completedTicks sequence (moved sequence progress frame) frames).map (1 + ·)

section Moves

variable {sequence : List Mask} {progress : Nat} {frame : Frame}

theorem moved_of_not_busy
    (h : Frame.isBusy frame = false) :
    moved sequence progress frame = progress := by
  simp [moved, h]

theorem completes_of_not_busy
    (h : Frame.isBusy frame = false) :
    completes sequence progress frame = false := by
  simp [completes, h]

/-- The progress stays short of the full length. -/
theorem moved_lt
    (h : progress < sequence.length)
    (frame : Frame) :
    moved sequence progress frame < sequence.length := by
  unfold moved
  split
  · split <;> omega
  · exact h

end Moves

/-- The frame of a tick is its sample if it is busy. -/
theorem sample_press_eq
    (pad : GamePad)
    (frame : Frame) :
    (pad.press (frame.getD .empty)).sample = if Frame.isBusy frame then frame else none := by
  cases hbusy : Frame.isBusy frame with
  | false => exact (Frame.sample_press_eq_none_iff pad frame).mpr hbusy
  | true =>
      cases frame with
      | none => cases hbusy
      | some mask =>
          refine GamePad.sample_press pad ?_
          rintro rfl
          cases hbusy

/-- What a recognizer makes of a frame. -/
theorem advance_frame
    {r : Recognizer Mask}
    (hconfigured : r.isConfigured = true)
    (hlt : r.progress < r.length)
    (pad : GamePad)
    (frame : Frame) :
    ∃ next step events,
      r.advance (pad.press (frame.getD .empty)).sample = .ok (next, step, events) ∧
      next.isConfigured = true ∧
      next.sequence = r.sequence ∧
      next.progress = moved r.sequence r.progress frame ∧
      (step = .completed ↔ completes r.sequence r.progress frame = true) ∧
      next.active = (r.active || completes r.sequence r.progress frame) := by
  have hlength := Recognizer.length_pos_of_isConfigured hconfigured
  obtain ⟨next, step, events, hadvance, hnext, hsequence, -⟩ :=
    Recognizer.advance_ok hconfigured (pad.press (frame.getD .empty)).sample
  refine ⟨next, step, events, hadvance, hnext, hsequence, ?_⟩
  rw [Recognizer.advance_of_isConfigured hconfigured, sample_press_eq] at hadvance
  cases hbusy : Frame.isBusy frame with
  | false =>
      rw [hbusy, if_neg Bool.false_ne_true, Recognizer.consume_idle,
        Recognizer.settle_of_lt hlt] at hadvance
      cases hadvance
      rw [moved_of_not_busy hbusy, completes_of_not_busy hbusy]
      exact ⟨rfl, by simp, by simp [Recognizer.restart]⟩
  | true =>
      cases frame with
      | none => cases hbusy
      | some mask =>
          obtain ⟨expected, hexpected, hcases⟩ := Recognizer.consume_some hlength mask
          rw [Recognizer.settle_of_lt hlt] at hexpected hcases
          rw [hbusy, if_pos rfl] at hadvance
          rcases hcases with ⟨hcode, hconsume⟩ | ⟨hcode, hmore, hconsume⟩ | ⟨hcode, hlast, hconsume⟩
          · have hne : ¬ expected = mask := fun e => by simp [e] at hcode
            rw [hconsume] at hadvance
            cases hadvance
            simp [moved, completes, hbusy, hexpected, hne, Recognizer.restart]
          · have heq : expected = mask := (beq_iff_eq.mp hcode).symm
            have hshort : r.progress + 1 < r.sequence.length := hmore
            rw [hconsume] at hadvance
            cases hadvance
            simp [moved, completes, hbusy, hexpected, heq, hshort, Nat.ne_of_lt hshort,
              Recognizer.restart]
          · have heq : expected = mask := (beq_iff_eq.mp hcode).symm
            have hfull : r.progress + 1 = r.sequence.length := hlast
            rw [hconsume] at hadvance
            cases hadvance
            simp [moved, completes, hbusy, hexpected, heq, hfull, Recognizer.restart]

/-- The replay stands at that progress of the sequence. -/
structure Reached
    (sequence : List Mask)
    (progress : Nat)
    (s : State) : Prop where
  isConfigured : s.recognizer.isConfigured = true
  sequence_eq : s.recognizer.sequence = sequence
  progress_eq : s.recognizer.progress = progress
  progress_lt : progress < sequence.length

namespace Reached

variable {sequence : List Mask} {progress : Nat} {s : State}

theorem of_fresh
    (hne : sequence ≠ []) :
    Reached sequence 0 { recognizer := fresh sequence } :=
  ⟨isConfigured_fresh hne, rfl, rfl, List.length_pos_iff.mpr hne⟩

/-- A tick is a move of the progress. -/
theorem tick
    (h : Reached sequence progress s)
    (frame : Frame) :
    ∃ next events,
      Replay.tick s frame =
        .ok (next, if completes sequence progress frame then [s.ticks + 1] else [], events) ∧
      Reached sequence (moved sequence progress frame) next ∧
      next.ticks = s.ticks + 1 ∧
      next.recognizer.active = (s.recognizer.active || completes sequence progress frame) := by
  obtain ⟨hconfigured, rfl, rfl, hlt⟩ := h
  obtain ⟨next, step, events, hadvance, hnext, hsequence, hprogress, hstep, hactive⟩ :=
    advance_frame hconfigured hlt s.pad frame
  have htick : Replay.tick s frame =
      .ok ({ pad := s.pad.press (frame.getD .empty), recognizer := next, ticks := s.ticks + 1 },
        if step = .completed then [s.ticks + 1] else [],
        events.map .recognizer ++ remarks (s.ticks + 1) next step) := by
    simp only [Replay.tick, hadvance, Except.map]
  simp only [hstep] at htick
  exact ⟨_, _, htick, ⟨hnext, hsequence, hprogress, moved_lt hlt frame⟩, rfl, hactive⟩

/-- A replay is a run of moves of the progress. -/
theorem follow
    (h : Reached sequence progress s)
    (frames : List Frame) :
    ∃ last events,
      Replay.follow s frames =
        .ok (last, (completedTicks sequence progress frames).map (s.ticks + ·), events) ∧
      Reached sequence (progressAfter sequence progress frames) last ∧
      last.recognizer.active =
        (s.recognizer.active || !(completedTicks sequence progress frames).isEmpty) := by
  induction frames generalizing s progress with
  | nil => exact ⟨s, [], rfl, h, by simp [completedTicks]⟩
  | cons frame frames ih =>
      obtain ⟨next, events, htick, hnext, hticks, hactive⟩ := h.tick frame
      obtain ⟨last, more, hfollow, hlast, hactives⟩ := ih hnext
      refine ⟨last, events ++ more, ?_, hlast, ?_⟩
      · rw [follow_cons htick hfollow, completedTicks, hticks]
        cases completes sequence progress frame <;> simp [Nat.add_assoc, Function.comp_def]
      · rw [hactives, hactive, completedTicks]
        cases completes sequence progress frame <;> simp

end Reached

/-- The report of a replay, computed from its frames. -/
theorem report_eq
    {sequence : List Mask}
    (hne : sequence ≠ [])
    (frames : List Frame) :
    report sequence frames =
      .ok
        { ticks := frames.length
          completions := completedTicks sequence 0 frames
          active := !(completedTicks sequence 0 frames).isEmpty
          finalProgress := progressAfter sequence 0 frames } := by
  obtain ⟨last, events, hfollow, hlast, hactive⟩ := (Reached.of_fresh hne).follow frames
  rw [report_of_follow hne hfollow, hactive, hlast.progress_eq]
  simp [fresh]

end Replay
end ButtonCombo
