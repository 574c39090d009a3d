import ButtonCombo.Proofs.ReplayProgress
import Mathlib.Data.List.Forall2

/-!
# Ticks without input

A frame that is not busy leaves the progress alone, so a replay is that of its busy frames
with the ticks numbered anew: the tick of a completion is the tick of a busy frame, and
which of the busy frames it is depends on the busy frames alone.  It makes no difference
whether a frame without input is absent or the empty mask.

Main facts:

* `progressAfter_busy`: the progress is that of the busy frames;
* `completedTicks_busy`: so are the completions, tick by tick of a busy frame;
* `report_busy`: replays with the same busy frames differ in their tick numbers only.
-/

namespace ButtonCombo

/-- The tick is that of the busy frame with this number, both counted from one. -/
def Frame.IsBusyTick
    (frames : List Frame)
    (number tick : Nat) : Prop :=
  0 < number ∧ (busyTicks frames)[number - 1]? = some tick

namespace Frame.IsBusyTick

variable {frame : Frame} {frames : List Frame} {number tick : Nat}

theorem first
    (h : isBusy frame = true) :
    IsBusyTick (frame :: frames) 1 1 := by
  rw [IsBusyTick, busyTicks_cons, h]
  exact ⟨Nat.one_pos, rfl⟩

/-- Behind another busy frame both numbers are one higher. -/
theorem later
    (h : isBusy frame = true)
    (htick : IsBusyTick frames number tick) :
    IsBusyTick (frame :: frames) (1 + number) (1 + tick) := by
  obtain ⟨hnumber, hbusy⟩ := htick
  obtain ⟨k, rfl⟩ : ∃ k, number = k + 1 := ⟨number - 1, by omega⟩
  rw [IsBusyTick, busyTicks_cons, h, Nat.add_comm 1 tick]
  refine ⟨by omega, ?_⟩
  have hrest : ((busyTicks frames).map (· + 1))[k]? = some (tick + 1) := by
    rw [List.getElem?_map, show k = k + 1 - 1 from rfl, hbusy]
    rfl
  simpa [Nat.add_comm 1] using hrest

/-- Behind a frame that is not busy only the tick is. -/
theorem idle
    (h : isBusy frame = false)
    (htick : IsBusyTick frames number tick) :
    IsBusyTick (frame :: frames) number (1 + tick) := by
  obtain ⟨hnumber, hbusy⟩ := htick
  rw [IsBusyTick, busyTicks_cons, h, Nat.add_comm 1 tick]
  refine ⟨hnumber, ?_⟩
  simp [hbusy]

end Frame.IsBusyTick

namespace Replay

open ButtonCombo.Frame (isBusy IsBusyTick)

variable {sequence : List Mask} {progress : Nat}

/-- The progress is that of the busy frames. -/
theorem progressAfter_busy
    (frames : List Frame) :
    progressAfter sequence progress (frames.filter isBusy) =
      progressAfter sequence progress frames := by
  induction frames generalizing progress with
  | nil => rfl
  | cons frame frames ih =>
      cases hbusy : isBusy frame with
      | true =>
          rw [List.filter_cons_of_pos hbusy]
          exact ih
      | false =>
          rw [List.filter_cons_of_neg (Bool.eq_false_iff.mp hbusy), ih]
          simp only [progressAfter, List.foldl_cons, moved_of_not_busy hbusy]

/-- The completions are those of the busy frames, each at the tick of its busy frame. -/
theorem completedTicks_busy
    (frames : List Frame) :
    List.Forall₂ (IsBusyTick frames)
      (completedTicks sequence progress (frames.filter isBusy))
      (completedTicks sequence progress frames) := by
  induction frames generalizing progress with
  | nil => exact .nil
  | cons frame frames ih =>
      cases hbusy : isBusy frame with
      | true =>
          rw [List.filter_cons_of_pos hbusy, completedTicks, completedTicks]
          refine List.rel_append ?_ ?_
          · split
            · exact .cons (IsBusyTick.first hbusy) .nil
            · exact .nil
          · rw [List.forall₂_map_left_iff, List.forall₂_map_right_iff]
            exact ih.imp fun _ _ => IsBusyTick.later hbusy
      | false =>
          rw [List.filter_cons_of_neg (Bool.eq_false_iff.mp hbusy), completedTicks,
            completes_of_not_busy hbusy, moved_of_not_busy hbusy]
          refine List.forall₂_map_right_iff.mpr ?_
          exact ih.imp fun _ _ => IsBusyTick.idle hbusy

/-- Two lists that are related to a common one are related through its members. -/
theorem forall₂_of_common
    {α β γ : Type}
    {R : α → β → Prop}
    {S : α → γ → Prop}
    {common : List α}
    {first : List β}
    {second : List γ}
    (hfirst : List.Forall₂ R common first)
    (hsecond : List.Forall₂ S common second) :
    List.Forall₂ (fun b c => ∃ a, R a b ∧ S a c) first second := by
  induction hfirst generalizing second with
  | nil =>
      cases hsecond
      exact .nil
  | cons hhead _ ih =>
      cases hsecond with
      | cons hother hrest => exact .cons ⟨_, hhead, hother⟩ (ih hrest)

/-- **Ticks without input are invisible.**  Two replays with the same busy frames end with
the same progress, both active or both not, and complete the sequence equally often; their
completions fall in pairs on the busy frames of the same number. -/
theorem report_busy
    (hne : sequence ≠ [])
    {frames others : List Frame}
    (hbusy : frames.filter isBusy = others.filter isBusy) :
    ∃ first second,
      report sequence frames = .ok first ∧
      report sequence others = .ok second ∧
      first.active = second.active ∧
      first.finalProgress = second.finalProgress ∧
      first.completions.length = second.completions.length ∧
      List.Forall₂
        (fun tick other => ∃ number, IsBusyTick frames number tick ∧
          IsBusyTick others number other)
        first.completions second.completions := by
  have hfirst : List.Forall₂ (IsBusyTick frames)
      (completedTicks sequence 0 (frames.filter isBusy)) (completedTicks sequence 0 frames) :=
    completedTicks_busy frames
  have hsecond : List.Forall₂ (IsBusyTick others)
      (completedTicks sequence 0 (frames.filter isBusy)) (completedTicks sequence 0 others) := by
    rw [hbusy]
    exact completedTicks_busy others
  have hpairs := forall₂_of_common hfirst hsecond
  have hlength := hpairs.length_eq
  refine ⟨_, _, report_eq hne frames, report_eq hne others, ?_, ?_, hlength, hpairs⟩
  · have hempty : (completedTicks sequence 0 frames).isEmpty =
        (completedTicks sequence 0 others).isEmpty := by
      rw [Bool.eq_iff_iff, List.isEmpty_iff_length_eq_zero, List.isEmpty_iff_length_eq_zero,
        hlength]
    simp only [hempty]
  · rw [← progressAfter_busy frames, hbusy, progressAfter_busy]

/-- Idle ticks before, within and after the attempts, absent or empty, move the second
completion from the fourth tick to the ninth; it stays on the fourth busy frame. -/
theorem report_busy_renumbered :
    ([.ofButton .a, .ofButton .b] : List Mask) ≠ [] ∧
    ∃ first second,
      report [.ofButton .a, .ofButton .b]
        [some (.ofButton .a), some (.ofButton .b), some (.ofButton .a), some (.ofButton .b)] =
          .ok first ∧
      report [.ofButton .a, .ofButton .b]
        [none, some (.ofButton .a), some .empty, some (.ofButton .b), none, some .empty,
          some (.ofButton .a), none, some (.ofButton .b), none] = .ok second ∧
      first.completions = [2, 4] ∧ second.completions = [4, 9] ∧
      first.finalProgress = second.finalProgress := by
  have hne : ([.ofButton .a, .ofButton .b] : List Mask) ≠ [] := by decide
  have hbusy :
      ([some (.ofButton .a), some (.ofButton .b), some (.ofButton .a), some (.ofButton .b)] :
        List Frame).filter isBusy =
      ([none, some (.ofButton .a), some .empty, some (.ofButton .b), none, some .empty,
        some (.ofButton .a), none, some (.ofButton .b), none] : List Frame).filter isBusy := by
    decide
  refine ⟨hne, ?_⟩
  obtain ⟨first, second, hfirst, hsecond, -, hfinal, -⟩ := report_busy hne hbusy
  refine ⟨first, second, hfirst, hsecond, ?_, ?_, hfinal⟩
  · cases hfirst
    rfl
  · cases hsecond
    rfl

end Replay
end ButtonCombo
