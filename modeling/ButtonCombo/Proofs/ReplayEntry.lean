import ButtonCombo.Config
import ButtonCombo.Proofs.ReplayMemory

/-!
# Sequences that can be entered

The pad never gives the empty mask as a sample, so the progress of a replay stops in front
of the first empty mask of its sequence, and a sequence with one is never completed.  A
sequence without one is completed by its own masks, one in each tick.  This is what the
settings are checked for: they accept a sequence exactly if some frames complete it.

Main facts:

* `Entered.pressed_of_completes`: a sequence that is completed has no empty mask;
* `completedTicks_self`: the masks of a sequence complete it once, in the last tick;
* `sequenceAccepted_iff_enterable`: the checks of the settings against the replays.
-/

namespace ButtonCombo

namespace Config

/-- The settings have no flaw in their sequence. -/
def SequenceAccepted (config : Config) : Prop :=
  config.validate ≠ .error .noSequence ∧ config.validate ≠ .error .emptyStep

/-- What the checks of the sequence look for. -/
theorem sequenceAccepted_iff
    {config : Config} :
    config.SequenceAccepted ↔
      config.sequence ≠ [] ∧ ∀ mask ∈ config.sequence, mask ≠ .empty := by
  unfold SequenceAccepted
  by_cases hseq : config.sequence = []
  · simp [validate_noSequence hseq, hseq]
  · by_cases hempty : Mask.empty ∈ config.sequence
    · rw [validate_emptyStep hempty]
      constructor
      · rintro ⟨-, hstep⟩
        exact absurd rfl hstep
      · rintro ⟨-, hpressed⟩
        exact absurd rfl (hpressed .empty hempty)
    · have hpressed : ∀ mask ∈ config.sequence, mask ≠ .empty := by
        rintro mask hmask rfl
        exact hempty hmask
      rw [validate_of_pressed hseq hpressed]
      by_cases htick : config.tickMs = 0
      · simpa [hseq, htick] using hpressed
      · simpa [hseq, htick] using hpressed

end Config

namespace Replay

variable {sequence : List Mask} {progress : Nat}

namespace Entered

/-- An empty mask is never passed. -/
theorem le_of_getElem?
    (h : Entered sequence progress)
    {k : Nat}
    (hempty : sequence[k]? = some .empty) :
    progress ≤ k := by
  rcases Nat.lt_or_ge k progress with hlt | hle
  · have hmem : Mask.empty ∈ sequence.take progress := by
      refine List.mem_of_getElem? (i := k) ?_
      rw [List.getElem?_take_of_lt hlt]
      exact hempty
    exact absurd rfl (h.pressed .empty hmem)
  · exact hle

/-- The last mask of a sequence is entered only if none of its masks is empty. -/
theorem pressed_of_completes
    (h : Entered sequence progress)
    {frame : Frame}
    (hcompletes : completes sequence progress frame = true) :
    ∀ mask ∈ sequence, mask ≠ .empty := by
  simp only [completes, Bool.and_eq_true, beq_iff_eq] at hcompletes
  obtain ⟨⟨hbusy, hexpected⟩, hlast⟩ := hcompletes
  have hshort : progress < sequence.length := h.short
  have hsplit : sequence = sequence.take progress ++ [sequence[progress]] := by
    rw [← List.take_succ_eq_append_getElem hshort, hlast, List.take_length]
  rw [hsplit, List.forall_mem_append]
  refine ⟨h.pressed, ?_⟩
  rintro mask hmask rfl
  have hframe : frame = some .empty := by
    rw [← hexpected, List.getElem?_eq_getElem hshort, List.mem_singleton.mp hmask]
  rw [hframe] at hbusy
  cases hbusy

theorem completedTicks_eq_nil
    (h : Entered sequence progress)
    (hempty : Mask.empty ∈ sequence)
    (frames : List Frame) :
    completedTicks sequence progress frames = [] := by
  induction frames generalizing progress with
  | nil => rfl
  | cons frame frames ih =>
      have hfirst : completes sequence progress frame = false := by
        rw [Bool.eq_false_iff]
        intro hcompletes
        exact h.pressed_of_completes hcompletes .empty hempty rfl
      rw [completedTicks, hfirst, ih (h.moved frame)]
      rfl

end Entered

/-- The masks of a sequence, none of them empty, complete it once, in the last tick. -/
theorem completedTicks_self
    (hne : sequence ≠ [])
    (hpressed : ∀ mask ∈ sequence, mask ≠ .empty) :
    completedTicks sequence 0 (sequence.map some) = [sequence.length] := by
  have hpos : 0 < sequence.length := List.length_pos_iff.mpr hne
  have hlt : sequence.length - 1 < sequence.length := by omega
  have hsplit : sequence.map some =
      (sequence.take (sequence.length - 1)).map some ++ [some sequence[sequence.length - 1]] := by
    rw [← List.map_singleton, ← List.map_append, ← List.take_succ_eq_append_getElem hlt,
      Nat.sub_add_cancel hpos, List.take_length]
  have hentered : Entered sequence (sequence.length - 1) :=
    ⟨hlt, fun mask hmask => hpressed mask (List.mem_of_mem_take hmask)⟩
  have hbusy : Frame.isBusy (some sequence[sequence.length - 1]) = true := by
    have hlast := hpressed _ (List.getElem_mem hlt)
    simpa [Frame.isBusy, ← Mask.isEmpty_iff] using hlast
  have hcompletes :
      completes sequence (sequence.length - 1) (some sequence[sequence.length - 1]) = true := by
    simp [completes, hbusy, List.getElem?_eq_getElem hlt, Nat.sub_add_cancel hpos]
  rw [hsplit, (hentered.replay_append _).2, completedTicks, hcompletes, if_pos rfl]
  simp [completedTicks, Nat.sub_add_cancel hpos]

theorem report_nil
    (frames : List Frame) :
    report [] frames = .error (.invalidConfiguration .emptySequence) := by
  rfl

end Replay

namespace Config

/-- **The settings accept exactly the sequences that can be entered.**  A replay of an
accepted sequence is never refused, and the masks of the sequence complete it once, in the
last tick.  A sequence with an empty mask is replayed too, but nothing completes it, and its
progress does not pass the empty mask.  Without a sequence every replay is refused. -/
theorem sequenceAccepted_iff_enterable
    (config : Config) :
    (config.SequenceAccepted ↔
      config.sequence ≠ [] ∧ ∀ mask ∈ config.sequence, mask ≠ .empty) ∧
    (config.SequenceAccepted →
      (∀ frames, ∃ report, Replay.report config.sequence frames = .ok report) ∧
      ∃ report,
        Replay.report config.sequence (config.sequence.map some) = .ok report ∧
        report.completions = [config.sequence.length]) ∧
    (∀ k, config.sequence[k]? = some .empty → ∀ frames, ∃ report,
      Replay.report config.sequence frames = .ok report ∧
      report.completions = [] ∧ report.active = false ∧ report.finalProgress ≤ k) ∧
    (config.sequence = [] → ∀ frames,
      Replay.report config.sequence frames = .error (.invalidConfiguration .emptySequence)) ∧
    (config.SequenceAccepted ↔ ∃ frames report,
      Replay.report config.sequence frames = .ok report ∧ report.completions ≠ []) := by
  have hself : config.SequenceAccepted →
      ∃ report,
        Replay.report config.sequence (config.sequence.map some) = .ok report ∧
        report.completions = [config.sequence.length] := by
    intro haccepted
    obtain ⟨hne, hpressed⟩ := sequenceAccepted_iff.mp haccepted
    exact ⟨_, Replay.report_eq hne _, Replay.completedTicks_self hne hpressed⟩
  refine ⟨sequenceAccepted_iff, ?_, ?_, ?_, ?_, ?_⟩
  · intro haccepted
    obtain ⟨hne, -⟩ := sequenceAccepted_iff.mp haccepted
    exact ⟨fun frames => ⟨_, Replay.report_eq hne frames⟩, hself haccepted⟩
  · intro k hempty frames
    have hmem : Mask.empty ∈ config.sequence := List.mem_of_getElem? hempty
    have hne : config.sequence ≠ [] := List.ne_nil_of_mem hmem
    have hzero : Replay.Entered config.sequence 0 := .zero hne
    have hnone := hzero.completedTicks_eq_nil hmem frames
    refine ⟨_, Replay.report_eq hne frames, hnone, ?_,
      (hzero.progressAfter frames).le_of_getElem? hempty⟩
    simp [hnone]
  · intro hnil frames
    rw [hnil]
    exact Replay.report_nil frames
  · intro haccepted
    obtain ⟨report, hreport, hcompletions⟩ := hself haccepted
    exact ⟨_, report, hreport, by simp [hcompletions]⟩
  · rintro ⟨frames, report, hreport, hcompletions⟩
    by_cases hne : config.sequence = []
    · rw [hne, Replay.report_nil] at hreport
      cases hreport
    · refine sequenceAccepted_iff.mpr ⟨hne, ?_⟩
      rintro mask hmask rfl
      rw [Replay.report_eq hne frames] at hreport
      cases hreport
      exact hcompletions ((Replay.Entered.zero hne).completedTicks_eq_nil hmask frames)

end Config
end ButtonCombo
