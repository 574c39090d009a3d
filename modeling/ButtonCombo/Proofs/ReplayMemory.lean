import ButtonCombo.Proofs.ReplayProgress

/-!
# What a replay remembers

A replay may be cut anywhere.  All that its first part leaves to the second one is the
progress, and the masks that have been entered bring a fresh replay to the same progress:
none of them is empty, because the empty mask is never entered.  So the second part may be
replayed by itself behind those masks; only its ticks have to be counted on.

Main facts:

* `completedTicks_append`: the second part counts its ticks on;
* `Entered.progressAfter`: no empty mask is among those that have been entered;
* `Entered.replay`: a beginning of the sequence brings a fresh replay to its progress;
* `report_append`: the report of two parts.
-/

namespace ButtonCombo
namespace Replay

variable {sequence : List Mask} {progress : Nat}

section Cutting

theorem progressAfter_append
    (front back : List Frame) :
    progressAfter sequence progress (front ++ back) =
      progressAfter sequence (progressAfter sequence progress front) back :=
  List.foldl_append

/-- The ticks of the second part are counted on from the first part. -/
theorem completedTicks_append
    (front back : List Frame) :
    completedTicks sequence progress (front ++ back) =
      completedTicks sequence progress front ++
        (completedTicks sequence (progressAfter sequence progress front) back).map
          (front.length + ·) := by
  induction front generalizing progress with
  | nil => simp [completedTicks, progressAfter]
  | cons frame front ih =>
      have hshift : ∀ tick, 1 + (front.length + tick) = front.length + 1 + tick := by
        intro tick
        omega
      rw [List.cons_append, completedTicks, ih, completedTicks]
      simp [progressAfter, Function.comp_def, hshift]

/-- Frames that start and end without progress can be replayed over and over. -/
theorem replay_replicate
    {frames : List Frame}
    (h : progressAfter sequence 0 frames = 0)
    (times : Nat) :
    progressAfter sequence 0 (List.replicate times frames).flatten = 0 ∧
      completedTicks sequence 0 (List.replicate times frames).flatten =
        (List.range times).flatMap fun k =>
          (completedTicks sequence 0 frames).map (k * frames.length + ·) := by
  induction times with
  | zero => exact ⟨rfl, rfl⟩
  | succ times ih =>
      rw [List.replicate_succ', List.flatten_append, List.flatten_singleton]
      refine ⟨?_, ?_⟩
      · rw [progressAfter_append, ih.1, h]
      · rw [completedTicks_append, ih.1, ih.2, List.range_succ, List.flatMap_append]
        simp

end Cutting

section Bounds

theorem moved_le
    (frame : Frame) :
    moved sequence progress frame ≤ progress + 1 := by
  unfold moved
  split
  · split <;> omega
  · omega

/-- A frame moves the progress by one at most. -/
theorem progressAfter_le
    (frames : List Frame) :
    progressAfter sequence progress frames ≤ progress + frames.length := by
  induction frames generalizing progress with
  | nil => exact Nat.le_refl _
  | cons frame frames ih =>
      have hmoved : moved sequence progress frame ≤ progress + 1 := moved_le frame
      calc progressAfter sequence (moved sequence progress frame) frames
          ≤ moved sequence progress frame + frames.length := ih
        _ ≤ progress + (frames.length + 1) := by omega

end Bounds

/-- The progress can have been entered: it is short of the full length, and no mask before
it is empty. -/
structure Entered
    (sequence : List Mask)
    (progress : Nat) : Prop where
  short : progress < sequence.length
  pressed : ∀ mask ∈ sequence.take progress, mask ≠ .empty

namespace Entered

theorem zero
    (hne : sequence ≠ []) :
    Entered sequence 0 :=
  ⟨List.length_pos_iff.mpr hne, by simp⟩

/-- One more frame adds no empty mask. -/
theorem moved
    (h : Entered sequence progress)
    (frame : Frame) :
    Entered sequence (moved sequence progress frame) := by
  refine ⟨moved_lt h.short frame, ?_⟩
  cases hbusy : Frame.isBusy frame with
  | false =>
      rw [moved_of_not_busy hbusy]
      exact h.pressed
  | true =>
      by_cases hmore : sequence[progress]? = frame ∧ progress + 1 < sequence.length
      · have hnext : Replay.moved sequence progress frame = progress + 1 := by
          simp [Replay.moved, hbusy, hmore]
        rw [hnext, List.take_succ_eq_append_getElem h.short, List.forall_mem_append]
        refine ⟨h.pressed, ?_⟩
        rintro mask hmask rfl
        have hempty : frame = some .empty := by
          rw [← hmore.1, List.getElem?_eq_getElem h.short, List.mem_singleton.mp hmask]
        rw [hempty] at hbusy
        cases hbusy
      · have hnext : Replay.moved sequence progress frame = 0 := by
          simp [Replay.moved, hbusy, hmore]
        rw [hnext]
        simp

theorem progressAfter
    (h : Entered sequence progress)
    (frames : List Frame) :
    Entered sequence (progressAfter sequence progress frames) := by
  induction frames generalizing progress with
  | nil => exact h
  | cons frame frames ih => exact ih (h.moved frame)

/-- A beginning of the sequence that can have been entered brings a fresh replay to its
end and completes nothing. -/
theorem replay
    (h : Entered sequence progress) :
    Replay.progressAfter sequence 0 ((sequence.take progress).map some) = progress ∧
      completedTicks sequence 0 ((sequence.take progress).map some) = [] := by
  induction progress with
  | zero => exact ⟨rfl, rfl⟩
  | succ progress ih =>
      have hshort : progress < sequence.length := Nat.lt_of_succ_lt h.short
      have hpressed := h.pressed
      rw [List.take_succ_eq_append_getElem hshort, List.forall_mem_append] at hpressed
      obtain ⟨hprogress, hticks⟩ := ih ⟨hshort, hpressed.1⟩
      have hbusy : Frame.isBusy (some sequence[progress]) = true := by
        have hne := hpressed.2 _ (List.mem_singleton_self _)
        simpa [Frame.isBusy, ← Mask.isEmpty_iff] using hne
      have hexpected : sequence[progress]? = some sequence[progress] :=
        List.getElem?_eq_getElem hshort
      rw [List.take_succ_eq_append_getElem hshort, List.map_append]
      refine ⟨?_, ?_⟩
      · rw [progressAfter_append, hprogress]
        simp [Replay.progressAfter, Replay.moved, hbusy, hexpected, h.short]
      · rw [completedTicks_append, hprogress, hticks]
        simp [completedTicks, completes, hbusy, hexpected, Nat.ne_of_lt h.short]

/-- Behind the masks that lead to a progress, a fresh replay goes on from there. -/
theorem replay_append
    (h : Entered sequence progress)
    (back : List Frame) :
    Replay.progressAfter sequence 0 ((sequence.take progress).map some ++ back) =
        Replay.progressAfter sequence progress back ∧
      completedTicks sequence 0 ((sequence.take progress).map some ++ back) =
        (completedTicks sequence progress back).map (progress + ·) := by
  obtain ⟨hprogress, hticks⟩ := h.replay
  have hlength : ((sequence.take progress).map some).length = progress := by
    rw [List.length_map, List.length_take_of_le (Nat.le_of_lt h.short)]
  refine ⟨?_, ?_⟩
  · rw [progressAfter_append, hprogress]
  · rw [completedTicks_append, hprogress, hticks, hlength, List.nil_append]

end Entered

/-- **A replay remembers its progress and nothing else.**  A replay of two parts reports
the completions of the first part, and behind them those of the second part, replayed by
itself behind the masks that the first part has entered, with the ticks counted on.  If
the first part ends without progress, the second part is replayed by itself as it stands,
and the first part may be repeated any number of times. -/
theorem report_append
    (hne : sequence ≠ [])
    (front back : List Frame) :
    ∃ first whole rest,
      report sequence front = .ok first ∧
      report sequence (front ++ back) = .ok whole ∧
      report sequence ((sequence.take first.finalProgress).map some ++ back) = .ok rest ∧
      first.finalProgress ≤ front.length ∧
      first.finalProgress < sequence.length ∧
      whole.completions =
        first.completions ++ rest.completions.map (· + (front.length - first.finalProgress)) ∧
      whole.finalProgress = rest.finalProgress ∧
      whole.active = (first.active || rest.active) ∧
      (first.finalProgress = 0 →
        (∃ alone,
          report sequence back = .ok alone ∧
          whole.completions = first.completions ++ alone.completions.map (· + front.length) ∧
          whole.finalProgress = alone.finalProgress ∧
          whole.active = (first.active || alone.active)) ∧
        ∀ times, ∃ again,
          report sequence (List.replicate times front).flatten = .ok again ∧
          again.completions =
            (List.range times).flatMap
              (fun k => first.completions.map (k * front.length + ·)) ∧
          again.completions.length = times * first.completions.length ∧
          again.finalProgress = 0) := by
  have hentered := (Entered.zero hne).progressAfter front
  have hle : progressAfter sequence 0 front ≤ 0 + front.length := progressAfter_le front
  rw [Nat.zero_add] at hle
  obtain ⟨hprogress, hticks⟩ := hentered.replay_append back
  have hwhole : completedTicks sequence 0 (front ++ back) =
      completedTicks sequence 0 front ++
        (completedTicks sequence (progressAfter sequence 0 front) back).map (front.length + ·) :=
    completedTicks_append front back
  -- the ticks of the second part, counted from the start and from the first part
  have hcompletions : completedTicks sequence 0 (front ++ back) =
      completedTicks sequence 0 front ++
        (completedTicks sequence 0
          ((sequence.take (progressAfter sequence 0 front)).map some ++ back)).map
            (· + (front.length - progressAfter sequence 0 front)) := by
    have hshift : ∀ tick, progressAfter sequence 0 front + tick +
        (front.length - progressAfter sequence 0 front) = front.length + tick := by
      intro tick
      omega
    simp only [hwhole, hticks, List.map_map, Function.comp_def, hshift]
  have hfinal : progressAfter sequence 0 (front ++ back) =
      progressAfter sequence 0
        ((sequence.take (progressAfter sequence 0 front)).map some ++ back) := by
    rw [progressAfter_append, hprogress]
  have hactive : (!(completedTicks sequence 0 (front ++ back)).isEmpty) =
      (!(completedTicks sequence 0 front).isEmpty ||
        !(completedTicks sequence 0
          ((sequence.take (progressAfter sequence 0 front)).map some ++ back)).isEmpty) := by
    rw [hcompletions]
    cases completedTicks sequence 0 front with
    | nil => rw [List.nil_append, List.isEmpty_map]; rfl
    | cons => rfl
  refine ⟨_, _, _, report_eq hne front, report_eq hne (front ++ back), report_eq hne _,
    hle, hentered.short, hcompletions, hfinal, hactive, ?_⟩
  intro hzero
  have hzero : progressAfter sequence 0 front = 0 := hzero
  rw [hzero] at hcompletions hfinal hactive
  refine ⟨⟨_, report_eq hne back, hcompletions, hfinal, hactive⟩, ?_⟩
  intro times
  obtain ⟨hagain, hcompleted⟩ := replay_replicate hzero times
  refine ⟨_, report_eq hne _, hcompleted, ?_, hagain⟩
  simp [hcompleted, List.length_flatMap, List.map_const']

/-- Two of three masks, an idle tick among them, are the memory of the first part here; the
third one completes the sequence on the fourth tick, as it does on the third behind the two
masks alone. -/
theorem report_append_partial :
    ([.ofButton .a, .empty ||| .ofButton .b, ⟨0x8000⟩] : List Mask) ≠ [] ∧
    ∃ first whole rest,
      report [.ofButton .a, .empty ||| .ofButton .b, ⟨0x8000⟩]
        [some (.ofButton .a), none, some (.ofButton .b)] = .ok first ∧
      report [.ofButton .a, .empty ||| .ofButton .b, ⟨0x8000⟩]
        ([some (.ofButton .a), none, some (.ofButton .b)] ++
          [some ⟨0x8000⟩, some (.ofButton .b)]) = .ok whole ∧
      report [.ofButton .a, .empty ||| .ofButton .b, ⟨0x8000⟩]
        [some (.ofButton .a), some (.ofButton .b), some ⟨0x8000⟩, some (.ofButton .b)] =
          .ok rest ∧
      first.finalProgress = 2 ∧ rest.completions = [3] ∧ whole.completions = [4] := by
  have hne : ([.ofButton .a, .empty ||| .ofButton .b, ⟨0x8000⟩] : List Mask) ≠ [] := by decide
  refine ⟨hne, ?_⟩
  obtain ⟨first, whole, rest, hfirst, hwhole, hrest, -, -, hcompletions, -⟩ :=
    report_append hne [some (.ofButton .a), none, some (.ofButton .b)]
      [some ⟨0x8000⟩, some (.ofButton .b)]
  cases hfirst
  cases hrest
  exact ⟨_, _, _, rfl, hwhole, rfl, rfl, rfl, hcompletions⟩

end Replay
end ButtonCombo
