import ButtonCombo.Program
import ButtonCombo.Proofs.WatchDrawings
import ButtonCombo.Proofs.WatchReplay

/-!
# The transcript of a watch

What a watch shows on the screen and what it logs come about in different places, part of
it in the callback while the progress is still full.  Both are determined by the answers of
the recognizer alone: the screen holds a drawing for every answer that is not idle, with
the bell in front of it if the answer is a completion, and the log numbers the completions.
`Writes` says so of what is done between two states; one tick preserves it, and so do all
ticks up to the end, whichever way the watch ends.

Main facts:

* `ticksOf_cases`: the two ways to end;
* `Ready.tick`: what one tick writes;
* `Ready.follow`, `Ready.follow_end`: what all ticks write, up to either end;
* `watch_transcript`: the screen and the log of a whole watch.
-/

namespace ButtonCombo

/-- The lines of the records that are shown. -/
def shownLines (records : List LogRecord) : List String :=
  (records.filter (·.level.isShown)).map LogRecord.line

@[simp] theorem shownLines_append
    (records more : List LogRecord) :
    shownLines (records ++ more) = shownLines records ++ shownLines more := by
  simp [shownLines]

namespace Watch

/-- The groups that are ticks: those before the first one with a key that quits. -/
def ticksOf (terminal : List (List TerminalEvent)) : List (List TerminalEvent) :=
  terminal.takeWhile fun group => !group.any TerminalEvent.isQuit

/-- A key ends the watch before it is interrupted. -/
def endsByKey (terminal : List (List TerminalEvent)) : Bool :=
  terminal.any fun group => group.any TerminalEvent.isQuit

/-- The samples that groups give to the recognizer, one each. -/
def samplesOf
    (map : KeyMap)
    (groups : List (List TerminalEvent)) : List (Option Mask) :=
  groups.map fun group => (GamePad.new.press (frameOf map group)).sample

/-- The two lines that a completion leaves in the log. -/
def completionLines (count : Nat) : List String :=
  ["INFO padcode_core::recognizer: Input sequence completed completions=" ++ toString count,
   "INFO padcode::commands::watch: Sequence entered completions=" ++ toString count]

/-- The lines that the end of a watch leaves in the log; an interrupt is reported, a key is
not. -/
def endingLines
    (byKey : Bool)
    (count : Nat) : List String :=
  (if byKey then [] else ["INFO padcode::shutdown: Received shutdown signal, stopping..."]) ++
    ["INFO padcode::commands::watch: Stopped watching completions=" ++ toString count]

section Endings

theorem not_isQuit_ticksOf
    (terminal : List (List TerminalEvent)) :
    ∀ group ∈ ticksOf terminal, ∀ event ∈ group, event.isQuit = false := by
  intro group hgroup
  have hquiet : (!group.any TerminalEvent.isQuit) = true :=
    List.all_eq_true.mp List.all_takeWhile group hgroup
  rw [Bool.not_eq_true', List.any_eq_false] at hquiet
  exact fun event hevent => Bool.eq_false_iff.mpr (hquiet event hevent)

/-- The two ways to end: all groups are ticks, or a key that quits comes after the ticks. -/
theorem ticksOf_cases
    (terminal : List (List TerminalEvent)) :
    (endsByKey terminal = false ∧ ticksOf terminal = terminal) ∨
      (endsByKey terminal = true ∧ ∃ last rest,
        (∃ event ∈ last, event.isQuit = true) ∧
        terminal = ticksOf terminal ++ last :: rest) := by
  induction terminal with
  | nil => exact Or.inl ⟨rfl, rfl⟩
  | cons group terminal ih =>
      cases hgroup : group.any TerminalEvent.isQuit with
      | true =>
          refine Or.inr ⟨?_, group, terminal, List.any_eq_true.mp hgroup, ?_⟩
          · simp [endsByKey, hgroup]
          · simp [ticksOf, hgroup]
      | false =>
          have hends : endsByKey (group :: terminal) = endsByKey terminal := by
            simp [endsByKey, hgroup]
          have hticks : ticksOf (group :: terminal) = group :: ticksOf terminal := by
            simp [ticksOf, hgroup]
          rw [hends, hticks]
          rcases ih with ⟨hend, hall⟩ | ⟨hend, last, rest, hlast, hall⟩
          · exact Or.inl ⟨hend, congrArg (group :: ·) hall⟩
          · exact Or.inr ⟨hend, last, rest, hlast, congrArg (group :: ·) hall⟩

end Endings

section Lines

/-- Reports of a level that is not shown leave no lines. -/
theorem shownLines_hidden
    {α : Type}
    {event : α → Event}
    {reports : List α}
    (h : ∀ report ∈ reports, (event report).record.level.isShown = false) :
    shownLines ((reports.map fun report => .report (event report)).filterMap Act.record?) = [] := by
  rw [shownLines, List.map_eq_nil_iff, List.filter_eq_nil_iff]
  intro record hrecord
  rw [List.mem_filterMap] at hrecord
  obtain ⟨act, hact, hrecord⟩ := hrecord
  obtain ⟨report, hreport, rfl⟩ := List.mem_map.mp hact
  cases hrecord
  rw [h report hreport]
  exact Bool.false_ne_true

/-- What follows a completion leaves its second line. -/
theorem shownLines_completed
    (config : Config)
    (r : Recognizer Mask)
    (pressed : Mask) :
    shownLines ((.report (.recognizer (.completed r.completions)) ::
      react config r pressed .completed).filterMap Act.record?) =
        completionLines r.completions := by
  unfold react callback
  cases config.chime <;> rfl

end Lines

/-- The recognizer of a watch is set up for the configured sequence. -/
structure Ready
    (config : Config)
    (s : State) : Prop where
  isConfigured : s.recognizer.isConfigured = true
  sequence_eq : s.recognizer.sequence = config.sequence

/-- What a watch does from one state to another is what the answers of its recognizer call
for: the drawings on the screen, and the numbered completions in the log. -/
structure Writes
    (config : Config)
    (s next : State)
    (steps : List Recognizer.Step)
    (acts : List Act) : Prop where
  ready : Ready config next
  progress_lt : ∀ progress, .matched progress ∈ steps → progress < config.sequence.length
  active_eq : next.recognizer.active = (s.recognizer.active || steps.any (· == .completed))
  completions_eq :
    next.recognizer.completions = s.recognizer.completions + steps.count .completed
  screen_eq :
    String.join (acts.map Act.screen) =
      String.join ((drawnAfter s.recognizer.active steps).map (Drawing.screen config))
  lines_eq :
    shownLines (acts.filterMap Act.record?) =
      (List.range' (s.recognizer.completions + 1) (steps.count .completed)).flatMap
        completionLines

namespace Writes

variable {config : Config} {s reached next : State}
variable {steps more : List Recognizer.Step} {acts others : List Act}

theorem refl
    (h : Ready config s) :
    Writes config s s [] [] where
  ready := h
  progress_lt := by simp
  active_eq := by simp
  completions_eq := by simp
  screen_eq := rfl
  lines_eq := rfl

theorem trans
    (h : Writes config s reached steps acts)
    (h' : Writes config reached next more others) :
    Writes config s next (steps ++ more) (acts ++ others) where
  ready := h'.ready
  progress_lt := by
    intro progress hmem
    rcases List.mem_append.mp hmem with hsteps | hmore
    · exact h.progress_lt progress hsteps
    · exact h'.progress_lt progress hmore
  active_eq := by
    rw [h'.active_eq, h.active_eq, List.any_append, Bool.or_assoc]
  completions_eq := by
    rw [h'.completions_eq, h.completions_eq, List.count_append]
    omega
  screen_eq := by
    rw [List.map_append, String.join_append, h.screen_eq, h'.screen_eq, h.active_eq,
      drawnAfter_append, List.map_append, String.join_append]
  lines_eq := by
    have hstart : reached.recognizer.completions + 1 =
        s.recognizer.completions + 1 + steps.count .completed := by
      have hcount := h.completions_eq
      omega
    rw [List.filterMap_append, shownLines_append, h.lines_eq, h'.lines_eq, hstart,
      List.count_append, ← List.flatMap_append, List.range'_append_1]

end Writes

namespace Ready

variable {config : Config} {s : State}

/-- One tick writes what the answer of its recognizer calls for. -/
theorem tick
    (h : Ready config s)
    (pressed : Mask) :
    ∃ next step events acts,
      s.recognizer.advance (GamePad.new.press pressed).sample =
        .ok (next.recognizer, step, events) ∧
      Watch.tick config s pressed = .ok (next, acts) ∧
      Writes config s next [step] acts := by
  obtain ⟨r, step, events, hadvance, hcases⟩ :=
    Recognizer.advance_cases h.isConfigured (GamePad.new.press pressed).sample
  -- a press forgets what the pad held, so any pad gives the same sample
  have hsample : (s.pad.press pressed).sample = (GamePad.new.press pressed).sample := rfl
  have htick : Watch.tick config s pressed =
      .ok ({ s with pad := s.pad.press pressed, recognizer := r },
        events.map (fun event => .report (.recognizer event)) ++
          react config r pressed step) := by
    simp only [Watch.tick, hsample, hadvance, Except.map]
  have hlength : s.recognizer.length = config.sequence.length :=
    congrArg List.length h.sequence_eq
  have hscreen (hsequence : r.sequence = config.sequence)
      (hshows : ∀ drawing ∈ drawing? s.recognizer.active step,
        r.progress = drawing.progress ∧ r.active = drawing.active) :
      String.join ((events.map (fun event => Act.report (.recognizer event)) ++
          react config r pressed step).map Act.screen) =
        String.join ((drawnAfter s.recognizer.active [step]).map (Drawing.screen config)) := by
    rw [List.map_append, String.join_append, screen_reports, String.empty_append,
      screen_react hsequence hshows, drawnAfter, drawnAfter, List.append_nil]
  refine ⟨_, step, events, _, hadvance, htick, ?_⟩
  rcases hcases with ⟨rfl, rfl, rfl⟩ | ⟨progress, rfl, hlt, rfl, rfl⟩ | ⟨lost, rfl, rfl, hevents⟩ |
    ⟨rfl, rfl, rfl⟩
  · exact {
      ready := ⟨by simpa using h.isConfigured, by simpa using h.sequence_eq⟩
      progress_lt := by simp
      active_eq := by simp
      completions_eq := by simp
      screen_eq := rfl
      lines_eq := rfl }
  · exact {
      ready := ⟨h.isConfigured, h.sequence_eq⟩
      progress_lt := by simpa [hlength] using hlt
      active_eq := by simp
      completions_eq := by simp
      screen_eq := hscreen h.sequence_eq (by simp [drawing?])
      lines_eq := rfl }
  · have hhidden : ∀ event ∈ events, (Event.recognizer event).record.level.isShown = false := by
      intro event hevent
      obtain ⟨code, expected, rfl⟩ := hevents event hevent
      rfl
    exact {
      ready := ⟨h.isConfigured, h.sequence_eq⟩
      progress_lt := by simp
      active_eq := by simp
      completions_eq := by simp
      screen_eq := hscreen h.sequence_eq (by simp [drawing?])
      lines_eq := by
        rw [List.filterMap_append, shownLines_append, shownLines_hidden hhidden]
        rfl }
  · exact {
      ready := ⟨h.isConfigured, h.sequence_eq⟩
      progress_lt := by simp
      active_eq := by simp
      completions_eq := by simp
      screen_eq := hscreen h.sequence_eq (by simp [drawing?])
      lines_eq := by
        simpa using shownLines_completed config
          { s.recognizer with
            progress := 0, active := true, completions := s.recognizer.completions + 1 }
          pressed }

/-- All ticks together write what the answers of the recognizer call for, and the watch
goes on from where they leave it. -/
theorem follow
    (h : Ready config s)
    (map : KeyMap)
    {groups : List (List TerminalEvent)}
    (hgroups : ∀ group ∈ groups, ∀ event ∈ group, event.isQuit = false) :
    ∃ reached steps acts,
      s.recognizer.follow (samplesOf map groups) = .ok (reached.recognizer, steps) ∧
      Writes config s reached steps acts ∧
      ∀ rest final more, Watch.follow config map reached rest = .ok (final, more) →
        Watch.follow config map s (groups ++ rest) = .ok (final, acts ++ more) := by
  induction groups generalizing s with
  | nil => exact ⟨s, [], [], rfl, .refl h, fun _ _ _ hrest => hrest⟩
  | cons group groups ih =>
      have hgroup := hgroups group List.mem_cons_self
      obtain ⟨next, step, events, acts, hadvance, htick, hwrites⟩ := h.tick (frameOf map group)
      obtain ⟨reached, steps, more, hfollow, hmore, hrest⟩ :=
        ih hwrites.ready fun later hlater => hgroups later (List.mem_cons_of_mem group hlater)
      refine ⟨reached, step :: steps, acts ++ more, Recognizer.follow_cons hadvance hfollow,
        hwrites.trans hmore, ?_⟩
      intro rest final last hlast
      rw [List.append_assoc]
      exact follow_cons hgroup htick (hrest rest final last hlast)

/-- A watch to its end: after the ticks, an interrupt is reported and a key is not. -/
theorem follow_end
    (h : Ready config s)
    (map : KeyMap)
    (terminal : List (List TerminalEvent)) :
    ∃ reached steps acts,
      s.recognizer.follow (samplesOf map (ticksOf terminal)) = .ok (reached.recognizer, steps) ∧
      Writes config s reached steps acts ∧
      ∀ other, ticksOf other = ticksOf terminal →
        Watch.follow config map s other =
          .ok ({ reached with signal := reached.signal.raise },
            acts ++ if endsByKey other then [] else [.report .interrupted]) := by
  obtain ⟨reached, steps, acts, hfollow, hwrites, hrest⟩ :=
    h.follow map (not_isQuit_ticksOf terminal)
  refine ⟨reached, steps, acts, hfollow, hwrites, ?_⟩
  intro other hother
  rcases ticksOf_cases other with ⟨hend, hall⟩ | ⟨hend, last, rest, hlast, hall⟩
  · have hinterrupted := hrest [] _ _ (follow_nil config map reached)
    rw [List.append_nil, ← hother, hall] at hinterrupted
    rw [hinterrupted, hend, if_neg Bool.false_ne_true]
  · have hquit := hrest _ _ _ (follow_quit config reached (quit_readTick_of_mem map hlast) rest)
    rw [← hother, ← hall] at hquit
    rw [hquit, hend, if_pos rfl]

end Ready

section Whole

variable {config : Config} {reached : State} {steps : List Recognizer.Step} {acts : List Act}

/-- All that a watch does, around what it does in its ticks. -/
def wholeActs
    (config : Config)
    (acts : List Act)
    (byKey : Bool)
    (count : Nat) : List Act :=
  [.report (.recognizer (.configured config.sequence.length)),
    draw config (Replay.fresh config.sequence)] ++
    (acts ++ if byKey then [] else [.report .interrupted]) ++
    [.report (.stopped count)]

/-- No drawing shows a full bar, and that of a completion shows an empty one. -/
theorem progress_of_drawing
    (hne : config.sequence ≠ [])
    (h : Writes config { recognizer := Replay.fresh config.sequence } reached steps acts)
    {drawing : Drawing}
    (hdrawing : drawing ∈ ⟨false, 0, false⟩ :: drawnAfter false steps) :
    drawing.progress < config.sequence.length ∧
      (drawing.completed = true → drawing.progress = 0) := by
  rcases progress_of_mem_allDrawings hdrawing with hzero | ⟨hopen, hmatched⟩
  · rw [hzero]
    exact ⟨List.length_pos_iff.mpr hne, fun _ => rfl⟩
  · refine ⟨h.progress_lt _ hmatched, ?_⟩
    rw [hopen]
    exact fun hcompleted => absurd hcompleted Bool.false_ne_true

/-- Besides the drawings of the ticks, the screen holds the one at the start. -/
theorem screen_wholeActs
    (h : Writes config { recognizer := Replay.fresh config.sequence } reached steps acts)
    (byKey : Bool)
    (count : Nat) :
    String.join ((wholeActs config acts byKey count).map Act.screen) =
      String.join
        ((⟨false, 0, false⟩ :: drawnAfter false steps).map (Drawing.screen config)) := by
  have hstart : (draw config (Replay.fresh config.sequence)).screen =
      Drawing.screen config ⟨false, 0, false⟩ :=
    (String.empty_append).symm
  have hreport : ∀ event, (Act.report event).screen = "" := fun _ => rfl
  have hending : String.join ((if byKey then [] else [Act.report .interrupted]).map Act.screen) =
      "" := by
    cases byKey <;> rfl
  simp only [wholeActs, List.map_append, List.map_cons, List.map_nil, String.join_append,
    String.join_cons, String.join_nil, hstart, hreport, hending, h.screen_eq, String.append_empty,
    String.empty_append]
  rfl

/-- Besides the lines of the ticks, the log holds those of the end. -/
theorem lines_wholeActs
    (h : Writes config { recognizer := Replay.fresh config.sequence } reached steps acts)
    (byKey : Bool)
    (count : Nat) :
    shownLines ((wholeActs config acts byKey count).filterMap Act.record?) =
      (List.range' 1 (steps.count .completed)).flatMap completionLines ++
        endingLines byKey count := by
  have hending : shownLines ((if byKey then [] else [Act.report .interrupted]).filterMap
        Act.record?) ++ shownLines ([Act.report (.stopped count)].filterMap Act.record?) =
      endingLines byKey count := by
    cases byKey <;> rfl
  rw [wholeActs, List.filterMap_append, List.filterMap_append, List.filterMap_append,
    shownLines_append, shownLines_append, shownLines_append, h.lines_eq, List.append_assoc,
    List.append_assoc, hending]
  rfl

end Whole

end Watch

namespace Program

open Watch

/-- With accepted keys and a terminal, the program shows and logs what its watch does. -/
theorem watch_of_run
    (surroundings : Surroundings)
    (before : List LogRecord)
    {config : Config}
    {map : KeyMap}
    {terminal : List (List TerminalEvent)}
    {final : State}
    {acts : List Act}
    (hkeys : KeyMap.withOverrides config.keys = .ok map)
    (hrun : Watch.run config map terminal = .ok (final, acts)) :
    watch { surroundings with terminal := some terminal } before config =
      { output := screen config acts, log := before ++ acts.filterMap Act.record? } := by
  simp only [watch, hkeys, hrun]

/-- **The transcript of a watch.**  The screen and the log of a watch are determined by the
answers of its recognizer to the ticks before the end.  The log numbers the completions,
each with its two lines, and ends with their number.  The screen holds the drawings; a
drawing of a completion has the bell directly in front of it if the bell is on, and no other
bell rings.  No drawing shows a full bar, and that of a completion an empty one; an
indicator for the unlocked state shows from the first completion on.  Whether a key or an
interrupt ends the watch makes no difference but for the one line that reports the
interrupt.  For a count of 64 bits see `Recognizer.follow_completions_toUInt64`. -/
theorem watch_transcript
    (surroundings : Surroundings)
    (before : List LogRecord)
    {config : Config}
    {map : KeyMap}
    (hvalid : config.validate = .ok ())
    (hkeys : KeyMap.withOverrides config.keys = .ok map)
    (terminal : List (List TerminalEvent)) :
    ∃ final steps drawings,
      (Replay.fresh config.sequence).follow (samplesOf map (ticksOf terminal)) =
        .ok (final, steps) ∧
      final.completions = steps.count .completed ∧
      drawings = ⟨false, 0, false⟩ :: drawnAfter false steps ∧
      drawings.countP Drawing.completed = steps.count .completed ∧
      (∀ other, ticksOf other = ticksOf terminal →
        ∃ outcome,
          outcome = watch { surroundings with terminal := some other } before config ∧
          outcome.exitCode = 0 ∧ outcome.error = none ∧
          outcome.output =
            heading config ++ String.join (drawings.map (Drawing.screen config)) ++ "\n" ∧
          outcome.output.toList.count '\x07' =
            (if config.chime then steps.count .completed else 0) ∧
          outcome.logLines =
            shownLines before ++
              (List.range' 1 (steps.count .completed)).flatMap completionLines ++
              endingLines (endsByKey other) (steps.count .completed)) ∧
      (∀ drawing ∈ drawings,
        drawing.progress < config.sequence.length ∧
        '-' ∈ progressBar drawing.progress config.sequence.length ∧
        (drawing.completed = true → drawing.progress = 0)) ∧
      (config.indicator = .onUnlock → ∀ front drawing back,
        drawings = front ++ drawing :: back →
          (Indicator.text.toList <:+: (drawing.status config).toList ↔
            ∃ earlier ∈ front ++ [drawing], earlier.completed = true)) := by
  have hne : config.sequence ≠ [] := (Config.validate_eq_ok_iff.mp hvalid).1
  have hready : Ready config { recognizer := Replay.fresh config.sequence } :=
    ⟨Replay.isConfigured_fresh hne, rfl⟩
  obtain ⟨reached, steps, acts, hfollow, hwrites, hend⟩ := hready.follow_end map terminal
  have hcompletions : reached.recognizer.completions = steps.count .completed :=
    hwrites.completions_eq.trans (Nat.zero_add _)
  refine ⟨reached.recognizer, steps, _, hfollow, hcompletions, rfl, countP_allDrawings steps,
    ?_, ?_, ?_⟩
  · intro other hother
    have hrun : Watch.run config map other =
        .ok ({ reached with signal := reached.signal.raise },
          wholeActs config acts (endsByKey other) reached.recognizer.completions) :=
      run_of_follow hne (hend other hother)
    rw [hcompletions] at hrun
    have hscreen : screen config
          (wholeActs config acts (endsByKey other) (steps.count .completed)) =
        heading config ++ String.join
          ((⟨false, 0, false⟩ :: drawnAfter false steps).map (Drawing.screen config)) ++ "\n" := by
      rw [screen, screen_wholeActs hwrites]
    refine ⟨_, (watch_of_run surroundings before hkeys hrun).symm, rfl, rfl, hscreen, ?_, ?_⟩
    · have hheading : (heading config).toList.count '\x07' = 0 :=
        List.count_eq_zero.mpr (bell_not_mem_heading config)
      simp only [hscreen, String.toList_append, List.count_append, hheading, count_bell_drawings,
        countP_allDrawings]
      exact Nat.zero_add _
    · rw [List.append_assoc, ← lines_wholeActs hwrites, ← shownLines_append]
      rfl
  · intro drawing hdrawing
    obtain ⟨hlt, hcompleted⟩ := progress_of_drawing hne hwrites hdrawing
    exact ⟨hlt, dash_mem_progressBar hlt, hcompleted⟩
  · intro hindicator front drawing back hdrawings
    rw [Drawing.status, indicator_isInfix_iff, hindicator, Indicator.isVisible,
      active_of_allDrawings hdrawings, List.any_eq_true]

/-- A chord and a single button, entered in three ticks, once with a key that quits and once
with an interrupt after them. -/
theorem watch_transcript_chord :
    ∃ output,
      output.toList.count '\x07' = 1 ∧
      (∃ outcome,
        outcome = watch
          { files := Directory.toFiles ⟨[]⟩
            terminal := some
              [[.key ⟨.char 'b', []⟩ .press, .key ⟨.char 'A', [.shift]⟩ .repetition],
                [.other], [.key ⟨.enter, []⟩ .press],
                [.key ⟨.up, []⟩ .press, .key ⟨.esc, []⟩ .press]] }
          [] { sequence := [.ofButton .a ||| .ofButton .b, .ofButton .start] } ∧
        outcome.output = output ∧
        outcome.logLines =
          ["INFO padcode_core::recognizer: Input sequence completed completions=1",
            "INFO padcode::commands::watch: Sequence entered completions=1",
            "INFO padcode::commands::watch: Stopped watching completions=1"]) ∧
      ∃ outcome,
        outcome = watch
          { files := Directory.toFiles ⟨[]⟩
            terminal := some
              [[.key ⟨.char 'b', []⟩ .press, .key ⟨.char 'A', [.shift]⟩ .repetition],
                [.other], [.key ⟨.enter, []⟩ .press]] }
          [] { sequence := [.ofButton .a ||| .ofButton .b, .ofButton .start] } ∧
        outcome.output = output ∧
        outcome.logLines =
          ["INFO padcode_core::recognizer: Input sequence completed completions=1",
            "INFO padcode::commands::watch: Sequence entered completions=1",
            "INFO padcode::shutdown: Received shutdown signal, stopping...",
            "INFO padcode::commands::watch: Stopped watching completions=1"] := by
  obtain ⟨final, steps, drawings, hfollow, -, -, -, houtcome, -, -⟩ :=
    @watch_transcript { files := Directory.toFiles ⟨[]⟩ } []
      { sequence := [.ofButton .a ||| .ofButton .b, .ofButton .start] } .default rfl rfl
      [[.key ⟨.char 'b', []⟩ .press, .key ⟨.char 'A', [.shift]⟩ .repetition],
        [.other], [.key ⟨.enter, []⟩ .press],
        [.key ⟨.up, []⟩ .press, .key ⟨.esc, []⟩ .press]]
  cases hfollow
  obtain ⟨quit, hquit, -, -, hscreen, hbells, hlog⟩ := houtcome _ rfl
  obtain ⟨interrupted, hinterrupted, -, -, hscreen', -, hlog'⟩ :=
    houtcome
      [[.key ⟨.char 'b', []⟩ .press, .key ⟨.char 'A', [.shift]⟩ .repetition],
        [.other], [.key ⟨.enter, []⟩ .press]] rfl
  exact ⟨quit.output, hbells, ⟨quit, hquit, rfl, hlog⟩, interrupted, hinterrupted,
    hscreen'.trans hscreen.symm, hlog'⟩

end Program
end ButtonCombo
