import ButtonCombo.Proofs.MaskPrint
import ButtonCombo.Proofs.StatusText
import ButtonCombo.Watch.Print

/-!
# The drawings of a watch

A watch draws the status after every answer of its recognizer that is not idle.  A drawing
of a completion shows no progress, because the callback has returned by then, and rings the
bell first if it is on.  What the drawings show follows from the answers alone, and the bell
is a character that nothing else on the screen holds.

Main facts:

* `countP_drawnAfter`: the drawings of completions are counted by the completions;
* `progress_of_mem_drawnAfter`, `active_of_drawnAfter`: what the drawings show;
* `countP_allDrawings`, `progress_of_mem_allDrawings`, `active_of_allDrawings`: the same with
  the drawing at the start;
* `count_bell_drawings`, `bell_not_mem_heading`: the bells on the screen;
* `screen_react`: what follows a step puts the drawing of the step on the screen.
-/

namespace ButtonCombo
namespace Watch

/-- A drawing of the status: whether its tick completed the sequence, and what the
recognizer shows. -/
structure Drawing where
  completed : Bool
  progress : Nat
  active : Bool

/-- The status line of a drawing. -/
def Drawing.status
    (config : Config)
    (drawing : Drawing) : String :=
  statusLine drawing.progress config.sequence.length drawing.active config.indicator

/-- What a drawing puts on the screen, after the bell if it rings. -/
def Drawing.screen
    (config : Config)
    (drawing : Drawing) : String :=
  (if drawing.completed && config.chime then "\x07" else "") ++
    ("\x1b[1G\x1b[2K" ++ drawing.status config)

/-- The drawing after a step, given whether the sequence was completed before. -/
def drawing? (active : Bool) : Recognizer.Step → Option Drawing
  | .idle => none
  | .matched progress => some ⟨false, progress, active⟩
  | .reset _ => some ⟨false, 0, active⟩
  | .completed => some ⟨true, 0, true⟩

/-- The drawings after some steps, given whether the sequence was completed before. -/
def drawnAfter (active : Bool) : List Recognizer.Step → List Drawing
  | [] => []
  | step :: steps =>
      (drawing? active step).toList ++ drawnAfter (active || step == .completed) steps

section Drawings

variable {active : Bool} {steps : List Recognizer.Step} {step : Recognizer.Step}

theorem drawnAfter_append
    (active : Bool)
    (steps more : List Recognizer.Step) :
    drawnAfter active (steps ++ more) =
      drawnAfter active steps ++ drawnAfter (active || steps.any (· == .completed)) more := by
  induction steps generalizing active with
  | nil => simp [drawnAfter]
  | cons step steps ih => simp [drawnAfter, ih, Bool.or_assoc]

theorem drawing?_eq_none_iff :
    drawing? active step = none ↔ step = .idle := by
  cases step <;> simp [drawing?]

theorem active_of_drawing?
    {drawing : Drawing}
    (h : drawing? active step = some drawing) :
    drawing.completed = (step == .completed) ∧
      drawing.active = (active || drawing.completed) := by
  cases step with
  | idle => cases h
  | matched progress =>
      cases h
      exact ⟨rfl, (Bool.or_false active).symm⟩
  | reset lost =>
      cases h
      exact ⟨rfl, (Bool.or_false active).symm⟩
  | completed =>
      cases h
      exact ⟨rfl, (Bool.or_true active).symm⟩

/-- There is one drawing of a completion for every completion. -/
theorem countP_drawnAfter
    (active : Bool)
    (steps : List Recognizer.Step) :
    (drawnAfter active steps).countP Drawing.completed = steps.count .completed := by
  induction steps generalizing active with
  | nil => rfl
  | cons step steps ih =>
      rw [drawnAfter, List.countP_append, ih, List.count_cons, Nat.add_comm]
      cases step <;> rfl

/-- A drawing shows the progress that its step left, and none after a completion. -/
theorem progress_of_mem_drawnAfter
    {drawing : Drawing}
    (h : drawing ∈ drawnAfter active steps) :
    drawing.progress = 0 ∨ drawing.completed = false ∧ .matched drawing.progress ∈ steps := by
  induction steps generalizing active with
  | nil => cases h
  | cons step steps ih =>
      rcases List.mem_append.mp h with hfirst | hrest
      · cases step with
        | idle => cases hfirst
        | matched progress =>
            rw [List.mem_singleton.mp hfirst]
            exact Or.inr ⟨rfl, List.mem_cons_self⟩
        | reset lost =>
            rw [List.mem_singleton.mp hfirst]
            exact Or.inl rfl
        | completed =>
            rw [List.mem_singleton.mp hfirst]
            exact Or.inl rfl
      · rcases ih hrest with hzero | ⟨hcompleted, hmatched⟩
        · exact Or.inl hzero
        · exact Or.inr ⟨hcompleted, List.mem_cons_of_mem _ hmatched⟩

/-- From the first completion on, every drawing shows that the sequence was completed. -/
theorem active_of_drawnAfter
    {front back : List Drawing}
    {drawing : Drawing}
    (h : drawnAfter active steps = front ++ drawing :: back) :
    drawing.active = (active || (front ++ [drawing]).any Drawing.completed) := by
  induction steps generalizing active front with
  | nil => simp [drawnAfter] at h
  | cons step steps ih =>
      rw [drawnAfter] at h
      cases hdrawing : drawing? active step with
      | none =>
          have hidle : (step == .completed) = false := by
            rw [drawing?_eq_none_iff.mp hdrawing]
            rfl
          rw [hdrawing, hidle, Bool.or_false] at h
          exact ih h
      | some first =>
          obtain ⟨hcompleted, hactive⟩ := active_of_drawing? hdrawing
          rw [hdrawing, ← hcompleted] at h
          cases front with
          | nil =>
              obtain ⟨rfl, -⟩ := List.cons_eq_cons.mp h
              simpa using hactive
          | cons other front =>
              obtain ⟨rfl, hrest⟩ := List.cons_eq_cons.mp h
              rw [ih hrest, List.cons_append, List.any_cons, Bool.or_assoc]

/-- All drawings of a watch: the one at the start has no completion to show. -/
theorem countP_allDrawings
    (steps : List Recognizer.Step) :
    (⟨false, 0, false⟩ :: drawnAfter false steps).countP Drawing.completed =
      steps.count .completed := by
  rw [List.countP_cons, countP_drawnAfter]
  rfl

theorem progress_of_mem_allDrawings
    {drawing : Drawing}
    (h : drawing ∈ ⟨false, 0, false⟩ :: drawnAfter false steps) :
    drawing.progress = 0 ∨ drawing.completed = false ∧ .matched drawing.progress ∈ steps := by
  rcases List.mem_cons.mp h with rfl | hlater
  · exact Or.inl rfl
  · exact progress_of_mem_drawnAfter hlater

theorem active_of_allDrawings
    {front back : List Drawing}
    {drawing : Drawing}
    (h : ⟨false, 0, false⟩ :: drawnAfter false steps = front ++ drawing :: back) :
    drawing.active = (front ++ [drawing]).any Drawing.completed := by
  cases front with
  | nil =>
      obtain ⟨rfl, -⟩ := List.cons_eq_cons.mp h
      rfl
  | cons first front =>
      obtain ⟨rfl, hrest⟩ := List.cons_eq_cons.mp h
      exact active_of_drawnAfter hrest

end Drawings

section Bells

variable {config : Config}

/-- A status line holds no bell. -/
theorem bell_not_mem_statusLine
    (progress length : Nat)
    (active : Bool)
    (indicator : Indicator) :
    '\x07' ∉ (statusLine progress length active indicator).toList := by
  intro hbell
  rcases mem_statusLine hbell with hstatus | htext
  · exact absurd hstatus (by decide)
  · exact absurd htext (by decide)

/-- The heading holds no bell, whatever the sequence is. -/
theorem bell_not_mem_heading
    (config : Config) :
    '\x07' ∉ (heading config).toList := by
  intro hbell
  unfold heading at hbell
  rw [String.toList_append, String.toList_append, List.mem_append, List.mem_append,
    String.toList_intercalate, List.map_map] at hbell
  rcases hbell with (hfirst | hsequence) | hsecond
  · exact absurd hfirst (by decide)
  · rcases Text.mem_intercalate hsequence with hseparator | ⟨text, htext, hbell⟩
    · exact absurd hseparator (by decide)
    · obtain ⟨mask, -, rfl⟩ := List.mem_map.mp htext
      rcases Mask.mem_text hbell with hpart | hplus | hdash
      · exact absurd hpart (by decide)
      · exact absurd hplus (by decide)
      · exact absurd hdash (by decide)
  · exact absurd hsecond (by decide)

theorem count_bell_drawing
    (drawing : Drawing) :
    (drawing.screen config).toList.count '\x07' =
      if drawing.completed && config.chime then 1 else 0 := by
  have hstatus : (drawing.status config).toList.count '\x07' = 0 :=
    List.count_eq_zero.mpr (bell_not_mem_statusLine _ _ _ _)
  rw [Drawing.screen, String.toList_append, String.toList_append, List.count_append,
    List.count_append, hstatus]
  split <;> decide

/-- The bell rings once for every drawing of a completion. -/
theorem count_bell_drawings
    (drawings : List Drawing) :
    (String.join (drawings.map (Drawing.screen config))).toList.count '\x07' =
      if config.chime then drawings.countP Drawing.completed else 0 := by
  induction drawings with
  | nil => cases config.chime <;> rfl
  | cons drawing drawings ih =>
      rw [List.map_cons, String.join_cons, String.toList_append, List.count_append, ih,
        count_bell_drawing, List.countP_cons]
      cases config.chime <;> cases drawing.completed <;> simp [Nat.add_comm]

end Bells

section Acts

variable {config : Config} {r : Recognizer Mask} {pressed : Mask}

@[simp] theorem screen_reports
    {α : Type}
    (event : α → Event)
    (reports : List α) :
    String.join ((reports.map fun report => .report (event report)).map Act.screen) = "" := by
  induction reports with
  | nil => rfl
  | cons report reports ih =>
      rw [List.map_cons, List.map_cons, String.join_cons, ih]
      rfl

/-- The drawing of a step shows what the recognizer holds after it. -/
theorem screen_react
    {active : Bool}
    {step : Recognizer.Step}
    (hsequence : r.sequence = config.sequence)
    (hshows : ∀ drawing ∈ drawing? active step,
      r.progress = drawing.progress ∧ r.active = drawing.active) :
    String.join ((react config r pressed step).map Act.screen) =
      String.join ((drawing? active step).toList.map (Drawing.screen config)) := by
  have hlength : r.length = config.sequence.length := congrArg List.length hsequence
  cases step with
  | idle => rfl
  | completed =>
      obtain ⟨hprogress, hactive⟩ := hshows _ rfl
      cases hchime : config.chime <;>
        simp [react, callback, draw, drawing?, Act.screen, Drawing.screen, Drawing.status, hchime,
          hlength, hprogress, hactive]
  | _ =>
      obtain ⟨hprogress, hactive⟩ := hshows _ rfl
      simp [react, draw, drawing?, Act.screen, Drawing.screen, Drawing.status, hlength,
        hprogress, hactive]

end Acts

end Watch
end ButtonCombo
