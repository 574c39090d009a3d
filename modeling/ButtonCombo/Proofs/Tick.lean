import ButtonCombo.Recognizer

/-!
# What a tick does to a recognizer

A tick has four outcomes: no input, a wrong code, the expected code, the last code.
`consume_idle` and `consume_some` say all that happens in each of them, from any
progress, a leftover full one included; whatever holds of ticks is derived from these
two.  A run of ticks is `follow`.

Main facts:

* `settle_progress_lt`: after a leftover completion is dropped, a code is expected;
* `consume_some`: the three outcomes of a code, and with it of a tick;
* `consume_completions`, `consume_completions_toUInt64`: completions are counted without a
  bound, and a counter of 64 bits tells the same as long as it does not wrap around;
* `advance_of_isConfigured`, `advance_ok`: a tick of a configured recognizer is never
  refused, and what it keeps, counts and answers;
* `advance_cases`: the four outcomes of such a tick;
* `follow_cons`: a run is its first tick and the run that is left;
* `follow_completions`, `follow_completions_toUInt64`: a run counts its completions.
-/

namespace ButtonCombo
namespace Recognizer

variable {C : Type}

section Parts

theorem parts?_eq_some_iff
    {r : Recognizer C}
    {source : SourceId}
    {callback : CallbackRef} :
    r.parts? = some (source, callback) ↔
      r.sequence ≠ [] ∧ r.source = some source ∧ r.callback = some callback := by
  unfold parts?
  cases hsequence : r.sequence with
  | nil => simp
  | cons code codes =>
      cases hsource : r.source <;> cases hcallback : r.callback <;> simp

theorem isConfigured_iff
    {r : Recognizer C} :
    r.isConfigured = true ↔ ∃ source callback, r.parts? = some (source, callback) := by
  rw [isConfigured, Option.isSome_iff_exists]
  exact ⟨fun ⟨(source, callback), h⟩ => ⟨source, callback, h⟩,
    fun ⟨source, callback, h⟩ => ⟨(source, callback), h⟩⟩

theorem isConfigured_of_parts?
    {r : Recognizer C}
    {source : SourceId}
    {callback : CallbackRef}
    (h : r.parts? = some (source, callback)) :
    r.isConfigured = true :=
  isConfigured_iff.mpr ⟨source, callback, h⟩

/-- Being configured is a matter of the parts alone. -/
theorem parts?_congr
    {r t : Recognizer C}
    (hsequence : r.sequence = t.sequence)
    (hsource : r.source = t.source)
    (hcallback : r.callback = t.callback) :
    r.parts? = t.parts? := by
  simp only [parts?, hsequence, hsource, hcallback]

theorem length_pos_of_isConfigured
    {r : Recognizer C}
    (h : r.isConfigured = true) :
    0 < r.length := by
  obtain ⟨source, callback, hparts⟩ := isConfigured_iff.mp h
  exact List.length_pos_iff.mpr (parts?_eq_some_iff.mp hparts).1

end Parts

/-- Below `2 ^ 64` completions a counter of 64 bits tells their number. -/
theorem toNat_completions_toUInt64
    {r : Recognizer C}
    (h : r.completions < UInt64.size) :
    r.completions.toUInt64.toNat = r.completions :=
  UInt64.toNat_ofNat_of_lt' h

section Settling

@[simp] theorem settle_sequence
    (r : Recognizer C) :
    r.settle.sequence = r.sequence := by
  unfold settle
  split <;> rfl

@[simp] theorem settle_source
    (r : Recognizer C) :
    r.settle.source = r.source := by
  unfold settle
  split <;> rfl

@[simp] theorem settle_callback
    (r : Recognizer C) :
    r.settle.callback = r.callback := by
  unfold settle
  split <;> rfl

@[simp] theorem settle_active
    (r : Recognizer C) :
    r.settle.active = r.active := by
  unfold settle
  split <;> rfl

@[simp] theorem settle_completions
    (r : Recognizer C) :
    r.settle.completions = r.completions := by
  unfold settle
  split <;> rfl

@[simp] theorem settle_length
    (r : Recognizer C) :
    r.settle.length = r.length := by
  rw [length, settle_sequence, length]

@[simp] theorem settle_parts?
    (r : Recognizer C) :
    r.settle.parts? = r.parts? :=
  parts?_congr r.settle_sequence r.settle_source r.settle_callback

@[simp] theorem settle_isConfigured
    (r : Recognizer C) :
    r.settle.isConfigured = r.isConfigured := by
  rw [isConfigured, settle_parts?, isConfigured]

/-- Progress at the full length, or beyond it, is dropped. -/
theorem settle_of_le
    {r : Recognizer C}
    (h : r.length ≤ r.progress) :
    r.settle = { r with progress := 0 } :=
  if_pos h

theorem settle_eq
    (r : Recognizer C) :
    r.settle = { r with progress := r.settle.progress } := by
  unfold settle
  split <;> rfl

/-- A settled recognizer of a nonempty sequence expects a code. -/
theorem settle_progress_lt
    {r : Recognizer C}
    (h : 0 < r.length) :
    r.settle.progress < r.length := by
  by_cases hlt : r.progress < r.length
  · rwa [settle_of_lt hlt]
  · rw [settle_of_le (Nat.le_of_not_lt hlt)]
    exact h

/-- There is nothing to drop exactly if the progress is zero or short of the full
length. -/
theorem settle_eq_self_iff
    {r : Recognizer C} :
    r.settle = r ↔ r.progress = 0 ∨ r.progress < r.length := by
  constructor
  · intro h
    by_cases hlt : r.progress < r.length
    · exact Or.inr hlt
    · rw [settle_of_le (Nat.le_of_not_lt hlt)] at h
      exact Or.inl (congrArg progress h).symm
  · rintro (hzero | hlt)
    · by_cases hlt : r.progress < r.length
      · exact settle_of_lt hlt
      · rw [settle_of_le (Nat.le_of_not_lt hlt), ← hzero]
    · exact settle_of_lt hlt

@[simp] theorem settle_settle
    (r : Recognizer C) :
    r.settle.settle = r.settle := by
  by_cases hlt : r.progress < r.length
  · rw [settle_of_lt hlt, settle_of_lt hlt]
  · rw [settle_of_le (Nat.le_of_not_lt hlt)]
    exact settle_eq_self_iff.mpr (Or.inl rfl)

/-- Starting over after a completed step drops the progress and nothing else. -/
@[simp] theorem restart_completed
    (r : Recognizer C) :
    r.restart .completed = { r with progress := 0 } := by
  rfl

theorem restart_of_ne
    (r : Recognizer C)
    {step : Step}
    (h : step ≠ .completed) :
    r.restart step = r :=
  if_neg h

@[simp] theorem restart_sequence
    (r : Recognizer C)
    (step : Step) :
    (r.restart step).sequence = r.sequence := by
  unfold restart
  split <;> rfl

@[simp] theorem restart_parts?
    (r : Recognizer C)
    (step : Step) :
    (r.restart step).parts? = r.parts? := by
  unfold restart
  split <;> rfl

@[simp] theorem restart_completions
    (r : Recognizer C)
    (step : Step) :
    (r.restart step).completions = r.completions := by
  unfold restart
  split <;> rfl

end Settling

section Samples

variable [BEq C]

/-- A tick begins by settling, so it makes no difference to settle before it. -/
@[simp] theorem consume_settle
    (r : Recognizer C)
    (sample : Option C) :
    r.settle.consume sample = r.consume sample := by
  simp only [consume, settle_settle]

/-- The three outcomes of a code, from any progress. -/
theorem consume_some
    {r : Recognizer C}
    (hlength : 0 < r.length)
    (code : C) :
    ∃ expected, r.sequence[r.settle.progress]? = some expected ∧
      (((code == expected) = false ∧
          r.consume (some code) =
            ({ r with progress := 0 }, .reset r.settle.progress,
              if 0 < r.settle.progress then [.broken code expected r.settle.progress] else []))
        ∨ ((code == expected) = true ∧ r.settle.progress + 1 < r.length ∧
          r.consume (some code) =
            ({ r with progress := r.settle.progress + 1 },
              .matched (r.settle.progress + 1),
              [.matched (r.settle.progress + 1) r.length]))
        ∨ ((code == expected) = true ∧ r.settle.progress + 1 = r.length ∧
          r.consume (some code) =
            ({ r with
                progress := r.length, active := true, completions := r.completions + 1 },
              .completed, [.completed (r.completions + 1)]))) := by
  have hlt : r.settle.progress < r.settle.length := by
    rw [settle_length]
    exact settle_progress_lt hlength
  have hexpected : r.settle.sequence[r.settle.progress]? =
      some r.settle.sequence[r.settle.progress] :=
    List.getElem?_eq_getElem hlt
  -- the fields besides the progress are those of `r`, settled or not
  have hfields : ∀ progress active completions,
      ({ r.settle with progress, active, completions } : Recognizer C) =
        { r with progress, active, completions } := by
    intro progress active completions
    simp only [settle_sequence, settle_source, settle_callback]
  refine ⟨_, by rw [← settle_sequence]; exact hexpected, ?_⟩
  rw [← consume_settle]
  cases hcode : (code == r.settle.sequence[r.settle.progress]) with
  | false =>
      refine Or.inl ⟨rfl, ?_⟩
      rw [consume_wrong hexpected hcode, hfields]
      simp
  | true =>
      by_cases hmore : r.settle.progress + 1 < r.length
      · refine Or.inr (Or.inl ⟨rfl, hmore, ?_⟩)
        rw [consume_expected hexpected hcode (by rwa [settle_length]), hfields]
        simp
      · have hlast : r.settle.progress + 1 = r.length := by
          rw [settle_length] at hlt
          omega
        refine Or.inr (Or.inr ⟨rfl, hlast, ?_⟩)
        rw [consume_last hexpected hcode (by rwa [settle_length]), hfields]
        simp [hlast]

/-- All that a sample does to the fields: it completes the sequence, or it moves the
progress to somewhere short of the full length. -/
theorem consume_fields
    {r : Recognizer C}
    (hlength : 0 < r.length)
    (sample : Option C) :
    ((r.consume sample).2.1 = .completed ∧
        (r.consume sample).1 =
          { r with progress := r.length, active := true, completions := r.completions + 1 }) ∨
      ((r.consume sample).2.1 ≠ .completed ∧
        ∃ progress, progress < r.length ∧ (r.consume sample).1 = { r with progress }) := by
  cases sample with
  | none =>
      rw [consume_idle]
      exact Or.inr ⟨by simp, r.settle.progress, settle_progress_lt hlength, r.settle_eq⟩
  | some code =>
      obtain ⟨expected, -, hwrong | hmore | hlast⟩ := consume_some hlength code
      · rw [hwrong.2]
        exact Or.inr ⟨by simp, 0, hlength, rfl⟩
      · rw [hmore.2.2]
        exact Or.inr ⟨by simp, r.settle.progress + 1, hmore.2.1, rfl⟩
      · rw [hlast.2.2]
        exact Or.inl ⟨rfl, rfl⟩

theorem consume_progress
    {r : Recognizer C}
    (hlength : 0 < r.length)
    (sample : Option C) :
    ((r.consume sample).2.1 = .completed ∧ (r.consume sample).1.progress = r.length) ∨
      ((r.consume sample).2.1 ≠ .completed ∧ (r.consume sample).1.progress < r.length) := by
  rcases consume_fields hlength sample with ⟨hstep, hnext⟩ | ⟨hstep, progress, hlt, hnext⟩
  · exact Or.inl ⟨hstep, by rw [hnext]⟩
  · exact Or.inr ⟨hstep, by rw [hnext]; exact hlt⟩

/-- A sample leaves the parts of a recognizer alone. -/
theorem consume_keeps_parts
    (r : Recognizer C)
    (sample : Option C) :
    (r.consume sample).1.sequence = r.sequence ∧
      (r.consume sample).1.source = r.source ∧
      (r.consume sample).1.callback = r.callback := by
  have hsettle := And.intro r.settle_sequence (And.intro r.settle_source r.settle_callback)
  simp only [consume]
  split
  · split
    · split <;> exact hsettle
    · exact hsettle
  · exact hsettle

@[simp] theorem consume_parts?
    (r : Recognizer C)
    (sample : Option C) :
    (r.consume sample).1.parts? = r.parts? := by
  obtain ⟨hsequence, hsource, hcallback⟩ := r.consume_keeps_parts sample
  exact parts?_congr hsequence hsource hcallback

@[simp] theorem consume_length
    (r : Recognizer C)
    (sample : Option C) :
    (r.consume sample).1.length = r.length :=
  congrArg List.length (r.consume_keeps_parts sample).1

/-- A completion is counted, and nothing else is. -/
theorem consume_completions
    {r : Recognizer C}
    (hlength : 0 < r.length)
    (sample : Option C) :
    (r.consume sample).1.completions =
      r.completions + if (r.consume sample).2.1 = .completed then 1 else 0 := by
  rcases consume_fields hlength sample with ⟨hstep, hnext⟩ | ⟨hstep, progress, -, hnext⟩
  · rw [if_pos hstep, hnext]
  · rw [if_neg hstep, hnext]
    rfl

/-- In a tick that stays below `2 ^ 64` completions the counter of 64 bits goes up as the
number does, and does not wrap around. -/
theorem consume_completions_toUInt64
    {r : Recognizer C}
    (hlength : 0 < r.length)
    (sample : Option C)
    (h : (r.consume sample).1.completions < UInt64.size) :
    (r.consume sample).1.completions.toUInt64 =
        r.completions.toUInt64 + (if (r.consume sample).2.1 = .completed then 1 else 0) ∧
      r.completions.toUInt64 ≤ (r.consume sample).1.completions.toUInt64 := by
  have hcount := consume_completions hlength sample
  have hle : r.completions ≤ (r.consume sample).1.completions := by
    rw [hcount]
    exact Nat.le_add_right _ _
  constructor
  · rw [hcount]
    split
    · exact UInt64.ofNat_add _ _
    · exact (UInt64.add_zero _).symm
  · rw [UInt64.le_iff_toNat_le, toNat_completions_toUInt64 h,
      toNat_completions_toUInt64 (Nat.lt_of_le_of_lt hle h)]
    exact hle

/-- A tick is idle exactly if there is no input. -/
theorem consume_idle_iff
    {r : Recognizer C}
    (hlength : 0 < r.length)
    (sample : Option C) :
    (r.consume sample).2.1 = .idle ↔ sample = none := by
  cases sample with
  | none => simp
  | some code =>
      obtain ⟨expected, -, hwrong | hmore | hlast⟩ := consume_some hlength code
      · simp [hwrong.2]
      · simp [hmore.2.2]
      · simp [hlast.2.2]

/-- A tick of a configured recognizer, with a callback that returns. -/
theorem advance_of_isConfigured
    {r : Recognizer C}
    (h : r.isConfigured = true)
    (sample : Option C) :
    r.advance sample =
      .ok ((r.consume sample).1.restart (r.consume sample).2.1, (r.consume sample).2) := by
  simp only [advance, h, if_true]

/-- What a tick of a configured recognizer keeps, counts and answers. -/
theorem advance_ok
    {r : Recognizer C}
    (h : r.isConfigured = true)
    (sample : Option C) :
    ∃ next step events,
      r.advance sample = .ok (next, step, events) ∧
      next.isConfigured = true ∧
      next.sequence = r.sequence ∧
      (step = .idle ↔ sample = none) ∧
      next.completions = r.completions + if step = .completed then 1 else 0 := by
  have hlength := length_pos_of_isConfigured h
  refine ⟨_, _, _, advance_of_isConfigured h sample, ?_, ?_, ?_, ?_⟩
  · rw [isConfigured, restart_parts?, consume_parts?]
    exact h
  · rw [restart_sequence]
    exact (r.consume_keeps_parts sample).1
  · exact consume_idle_iff hlength sample
  · rw [restart_completions]
    exact consume_completions hlength sample

/-- The four outcomes of a tick of a configured recognizer, with all that it leaves and
reports. -/
theorem advance_cases
    {r : Recognizer C}
    (h : r.isConfigured = true)
    (sample : Option C) :
    ∃ next step events,
      r.advance sample = .ok (next, step, events) ∧
      ((step = .idle ∧ next = r.settle ∧ events = [])
        ∨ (∃ progress, step = .matched progress ∧ progress < r.length ∧
          next = { r with progress } ∧ events = [.matched progress r.length])
        ∨ (∃ lost, step = .reset lost ∧ next = { r with progress := 0 } ∧
          ∀ event ∈ events, ∃ code expected, event = .broken code expected lost)
        ∨ (step = .completed ∧
          next = { r with progress := 0, active := true, completions := r.completions + 1 } ∧
          events = [.completed (r.completions + 1)])) := by
  refine ⟨_, _, _, advance_of_isConfigured h sample, ?_⟩
  cases sample with
  | none =>
      rw [consume_idle]
      exact Or.inl ⟨rfl, rfl, rfl⟩
  | some code =>
      obtain ⟨expected, -, hwrong | hmore | hlast⟩ :=
        consume_some (length_pos_of_isConfigured h) code
      · rw [hwrong.2]
        refine Or.inr (Or.inr (Or.inl ⟨_, rfl, rfl, ?_⟩))
        intro event hevent
        split at hevent
        · exact ⟨code, expected, List.mem_singleton.mp hevent⟩
        · cases hevent
      · rw [hmore.2.2]
        exact Or.inr (Or.inl ⟨_, rfl, hmore.2.1, rfl, rfl⟩)
      · rw [hlast.2.2]
        exact Or.inr (Or.inr (Or.inr ⟨rfl, rfl, rfl⟩))

end Samples

section Runs

variable [BEq C]

/-- A run of ticks, one sample each, with a callback that returns: the recognizer in the
end, and the outcome of every tick. -/
def follow
    (r : Recognizer C) : List (Option C) → Except Error (Recognizer C × List Step)
  | [] => .ok (r, [])
  | sample :: samples =>
      match r.advance sample with
      | .error error => .error error
      | .ok (next, step, _) =>
          (next.follow samples).map fun (last, steps) => (last, step :: steps)

/-- The first tick of a run and the run that is left. -/
theorem follow_cons
    {r next last : Recognizer C}
    {sample : Option C}
    {samples : List (Option C)}
    {step : Step}
    {events : List (Event C)}
    {steps : List Step}
    (hfirst : r.advance sample = .ok (next, step, events))
    (hrest : next.follow samples = .ok (last, steps)) :
    r.follow (sample :: samples) = .ok (last, step :: steps) := by
  simp only [follow, hfirst, hrest, Except.map]

/-- A run counts its completions. -/
theorem follow_completions
    {r last : Recognizer C}
    (hconfigured : r.isConfigured = true)
    {samples : List (Option C)}
    {steps : List Step}
    (hrun : r.follow samples = .ok (last, steps)) :
    last.completions = r.completions + steps.count .completed := by
  induction samples generalizing r steps with
  | nil =>
      cases hrun
      rfl
  | cons sample samples ih =>
      obtain ⟨next, step, events, hadvance, hnext, -, -, hcount⟩ := advance_ok hconfigured sample
      simp only [follow, hadvance] at hrun
      cases hrest : next.follow samples with
      | error error =>
          rw [hrest] at hrun
          cases hrun
      | ok reached =>
          rw [hrest] at hrun
          cases hrun
          rw [ih hnext hrest, hcount, List.count_cons, Nat.add_assoc, Nat.add_comm (ite _ _ _)]
          simp only [beq_iff_eq]

/-- A run that stays below `2 ^ 64` completions counts them in 64 bits as well. -/
theorem follow_completions_toUInt64
    {r last : Recognizer C}
    (hconfigured : r.isConfigured = true)
    {samples : List (Option C)}
    {steps : List Step}
    (hrun : r.follow samples = .ok (last, steps))
    (h : last.completions < UInt64.size) :
    last.completions.toUInt64.toNat =
      r.completions.toUInt64.toNat + steps.count .completed := by
  have hcount := follow_completions hconfigured hrun
  have hle : r.completions ≤ last.completions := by
    rw [hcount]
    exact Nat.le_add_right _ _
  rw [toNat_completions_toUInt64 h, toNat_completions_toUInt64 (Nat.lt_of_le_of_lt hle h), hcount]

end Runs
end Recognizer
end ButtonCombo
