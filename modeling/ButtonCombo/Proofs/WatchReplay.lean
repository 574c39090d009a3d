import ButtonCombo.Proofs.ReplayTick
import ButtonCombo.Proofs.WatchTick

/-!
# A watch is a replay of its frames

A watch drives its recognizer by groups of keyboard events, a replay by frames.  The two
go in step if every group is turned into its frame: `InStep` says that they hold the same
recognizer, one tick of each preserves it, and the watch draws in that tick exactly if the
frame is busy.  Hence the drawings of a watch are the states of the replays of the frames
up to each busy one.

Main facts:

* `InStep.tick`: one group against one frame;
* `InStep.follow`: all groups against all frames;
* `run_refines_replay`: a watch against the report of a replay.
-/

namespace ButtonCombo
namespace Watch

/-- The text of an act that draws. -/
def Act.drawing? : Act → Option String
  | draw status => some status
  | _ => none

/-- What a watch draws, in order. -/
def drawings (acts : List Act) : List String :=
  acts.filterMap Act.drawing?

/-- The status line of a recognizer. -/
def statusOf
    (config : Config)
    (r : Recognizer Mask) : String :=
  statusLine r.progress r.length r.active config.indicator

section Drawings

@[simp] theorem drawings_append
    (acts more : List Act) :
    drawings (acts ++ more) = drawings acts ++ drawings more :=
  List.filterMap_append

@[simp] theorem drawings_report
    {α : Type}
    (event : α → Event)
    (reports : List α) :
    drawings (reports.map fun report => .report (event report)) = [] := by
  induction reports with
  | nil => rfl
  | cons report reports ih => exact ih

/-- A step is drawn once unless it is idle. -/
theorem drawings_react
    (config : Config)
    (r : Recognizer Mask)
    (pressed : Mask)
    (step : Recognizer.Step) :
    drawings (react config r pressed step) = if step = .idle then [] else [statusOf config r] := by
  cases step with
  | completed =>
      unfold react callback
      cases config.chime <;> rfl
  | _ => rfl

end Drawings

/-- A watch and a replay hold the same recognizer for the configured sequence. -/
structure InStep
    (config : Config)
    (s : State)
    (t : Replay.State) : Prop where
  recognizer_eq : s.recognizer = t.recognizer
  isConfigured : t.recognizer.isConfigured = true
  sequence_eq : t.recognizer.sequence = config.sequence

/-- The text is the status of the replay after so many of the frames. -/
def Shows
    (config : Config)
    (t : Replay.State)
    (frames : List Frame)
    (count : Nat)
    (status : String) : Prop :=
  ∃ reached done events,
    Replay.follow t (frames.take count) = .ok (reached, done, events) ∧
    reached.recognizer.sequence = config.sequence ∧
    status = statusOf config reached.recognizer

namespace Shows

variable {config : Config} {t next : Replay.State} {frame : Frame} {frames : List Frame}
variable {done : List Nat} {events : List Replay.Event}

theorem first
    (htick : Replay.tick t frame = .ok (next, done, events))
    (hsequence : next.recognizer.sequence = config.sequence) :
    Shows config t (frame :: frames) 1 (statusOf config next.recognizer) :=
  ⟨next, _, _, Replay.follow_cons htick (Replay.follow_nil next), hsequence, rfl⟩

/-- What shows after some frames shows one tick later after one more frame in front. -/
theorem later
    (htick : Replay.tick t frame = .ok (next, done, events))
    {count : Nat}
    {status : String}
    (h : Shows config next frames count status) :
    Shows config t (frame :: frames) (count + 1) status := by
  obtain ⟨reached, moreDone, moreEvents, hfollow, hstatus⟩ := h
  refine ⟨reached, done ++ moreDone, events ++ moreEvents, ?_, hstatus⟩
  rw [List.take_succ_cons]
  exact Replay.follow_cons htick hfollow

end Shows

namespace InStep

variable {config : Config} {s : State} {t : Replay.State}

/-- One tick of the watch against one of the replay. -/
theorem tick
    (h : InStep config s t)
    (pressed : Mask) :
    ∃ next acts following done events,
      Watch.tick config s pressed = .ok (next, acts) ∧
      Replay.tick t (some pressed) = .ok (following, done, events) ∧
      InStep config next following ∧
      following.recognizer.completions = t.recognizer.completions + done.length ∧
      drawings acts =
        if Frame.isBusy (some pressed) then [statusOf config following.recognizer] else [] := by
  obtain ⟨next, step, events, hadvance, hconfigured, hsequence, hidle, hcount⟩ :=
    Recognizer.advance_ok h.isConfigured (t.pad.press pressed).sample
  -- a press forgets what the pad held, so both pads give the same sample
  have hsample : (s.pad.press pressed).sample = (t.pad.press pressed).sample := rfl
  have hbusy : step = .idle ↔ Frame.isBusy (some pressed) = false :=
    hidle.trans (Frame.sample_press_eq_none_iff t.pad (some pressed))
  have hwatch : Watch.tick config s pressed =
      .ok ({ s with pad := s.pad.press pressed, recognizer := next },
        events.map (fun event => .report (.recognizer event)) ++ react config next pressed step) := by
    simp only [Watch.tick, hsample, h.recognizer_eq, hadvance, Except.map]
  have hreplay : Replay.tick t (some pressed) =
      .ok ({ pad := t.pad.press pressed, recognizer := next, ticks := t.ticks + 1 },
        if step = .completed then [t.ticks + 1] else [],
        events.map .recognizer ++ Replay.remarks (t.ticks + 1) next step) := by
    simp only [Replay.tick, Option.getD_some, hadvance, Except.map]
  refine ⟨_, _, _, _, _, hwatch, hreplay,
    ⟨rfl, hconfigured, hsequence.trans h.sequence_eq⟩, ?_, ?_⟩
  · rw [hcount]
    split <;> rfl
  · rw [drawings_append, drawings_report, drawings_react, List.nil_append]
    cases hpressed : Frame.isBusy (some pressed) with
    | false => rw [if_pos (hbusy.mpr hpressed), if_neg Bool.false_ne_true]
    | true =>
        have hstep : step ≠ .idle := by
          intro hstep
          rw [hbusy.mp hstep] at hpressed
          cases hpressed
        rw [if_neg hstep, if_pos rfl]

/-- All groups of the watch against all frames of the replay. -/
theorem follow
    (h : InStep config s t)
    (map : KeyMap)
    {groups : List (List TerminalEvent)}
    {last : List TerminalEvent}
    (hgroups : ∀ group ∈ groups, ∀ event ∈ group, event.isQuit = false)
    (hlast : ∃ event ∈ last, event.isQuit = true)
    (rest : List (List TerminalEvent)) :
    ∃ final acts ending done events,
      Watch.follow config map s (groups ++ last :: rest) = .ok (final, acts) ∧
      Replay.follow t (framesOf map groups) = .ok (ending, done, events) ∧
      InStep config final ending ∧
      ending.recognizer.completions = t.recognizer.completions + done.length ∧
      List.Forall₂ (Shows config t (framesOf map groups))
        (Frame.busyTicks (framesOf map groups)) (drawings acts) := by
  induction groups generalizing s t with
  | nil =>
      have hquit := follow_quit config s (quit_readTick_of_mem map hlast) rest
      exact ⟨_, _, _, _, _, hquit, Replay.follow_nil t,
        ⟨h.recognizer_eq, h.isConfigured, h.sequence_eq⟩, rfl, .nil⟩
  | cons group groups ih =>
      obtain ⟨next, acts, following, done, events, hwatch, hreplay, hnext, hcount, hdrawings⟩ :=
        h.tick (frameOf map group)
      obtain ⟨final, more, ending, moreDone, moreEvents, hfollow, hreplays, hfinal, hcounts,
        hshows⟩ :=
        ih hnext fun later hlater => hgroups later (List.mem_cons_of_mem group hlater)
      have hgroup := hgroups group List.mem_cons_self
      have hframes : framesOf map (group :: groups) =
          some (frameOf map group) :: framesOf map groups := rfl
      refine ⟨final, acts ++ more, ending, done ++ moreDone, events ++ moreEvents,
        follow_cons hgroup hwatch hfollow, Replay.follow_cons hreplay hreplays, hfinal, ?_, ?_⟩
      · rw [hcounts, hcount, List.length_append, Nat.add_assoc]
      · rw [hframes, Frame.busyTicks_cons, drawings_append, hdrawings]
        refine List.rel_append ?_ ?_
        · split
          · exact .cons (Shows.first hreplay hnext.sequence_eq) .nil
          · exact .nil
        · exact List.forall₂_map_left_iff.mpr (hshows.imp fun _ _ hshow => hshow.later hreplay)

end InStep

/-- The set-up of a watch is that of a replay. -/
theorem start_eq
    {config : Config}
    (hne : config.sequence ≠ []) :
    start config =
      .ok ({ recognizer := Replay.fresh config.sequence },
        [.report (.recognizer (.configured config.sequence.length))]) := by
  have hbuild : (draft config).build =
      .ok (Replay.fresh config.sequence, [.configured config.sequence.length]) :=
    Replay.build_draft hne
  rw [start, hbuild]
  rfl

/-- A whole watch: the first drawing, what the ticks do, and the last report. -/
theorem run_of_follow
    {config : Config}
    (hne : config.sequence ≠ [])
    {map : KeyMap}
    {groups : List (List TerminalEvent)}
    {final : State}
    {acts : List Act}
    (h : follow config map { recognizer := Replay.fresh config.sequence } groups =
      .ok (final, acts)) :
    run config map groups =
      .ok (final,
        [.report (.recognizer (.configured config.sequence.length))] ++
          [draw config (Replay.fresh config.sequence)] ++ acts ++
          [.report (.stopped final.recognizer.completions)]) := by
  simp [run, start_eq hne, h, Except.map]

/-- **A watch refines a replay.**  A watch that a key ends leaves its recognizer as the
replay of its frames does, and draws the status at the start and after every busy frame,
each time the one that the replay of the frames so far reports.  Neither the order of the
events within a group matters, nor what comes in the tick of that key or later.  The keys
may be bound in any way, so also in every way that a configuration is allowed to. -/
theorem run_refines_replay
    {config : Config}
    (map : KeyMap)
    {groups : List (List TerminalEvent)}
    {last : List TerminalEvent}
    (hvalid : config.validate = .ok ())
    (hgroups : ∀ group ∈ groups, ∀ event ∈ group, event.isQuit = false)
    (hlast : ∃ event ∈ last, event.isQuit = true)
    (rest : List (List TerminalEvent)) :
    ∃ final acts report,
      run config map (groups ++ last :: rest) = .ok (final, acts) ∧
      Replay.report config.sequence (framesOf map groups) = .ok report ∧
      final.recognizer.completions = report.completions.length ∧
      final.recognizer.progress = report.finalProgress ∧
      final.recognizer.active = report.active ∧
      (drawings acts).length = 1 + (framesOf map groups).countP Frame.isBusy ∧
      (∃ statuses,
        drawings acts = statusLine 0 config.sequence.length false config.indicator :: statuses ∧
        List.Forall₂
          (fun count status => ∃ reached,
            Replay.report config.sequence ((framesOf map groups).take count) = .ok reached ∧
            status = statusLine reached.finalProgress config.sequence.length reached.active
              config.indicator)
          (Frame.busyTicks (framesOf map groups)) statuses) ∧
      ∀ (others : List (List TerminalEvent)) (ending : List TerminalEvent)
        (after : List (List TerminalEvent)),
        List.Forall₂ List.Perm groups others → (∃ event ∈ ending, event.isQuit = true) →
        run config map (others ++ ending :: after) = .ok (final, acts) := by
  have hne : config.sequence ≠ [] := (Config.validate_eq_ok_iff.mp hvalid).1
  have hinStep : InStep config { recognizer := Replay.fresh config.sequence }
      { recognizer := Replay.fresh config.sequence } :=
    ⟨rfl, Replay.isConfigured_fresh hne, rfl⟩
  obtain ⟨final, acts, ending, done, events, hfollow, hreplay, hfinal, hcount, hshows⟩ :=
    hinStep.follow map hgroups hlast rest
  have hstatuses : drawings
      ([.report (.recognizer (.configured config.sequence.length))] ++
        [draw config (Replay.fresh config.sequence)] ++ acts ++
        [.report (.stopped final.recognizer.completions)]) =
      statusLine 0 config.sequence.length false config.indicator :: drawings acts := by
    rw [drawings_append, drawings_append]
    exact List.append_nil _
  refine ⟨final, _, _, run_of_follow hne hfollow, Replay.report_of_follow hne hreplay,
    ?_, ?_, ?_, ?_, ⟨drawings acts, hstatuses, ?_⟩, ?_⟩
  · rw [hfinal.recognizer_eq, hcount]
    exact Nat.zero_add _
  · rw [hfinal.recognizer_eq]
  · rw [hfinal.recognizer_eq]
  · rw [hstatuses, List.length_cons, ← hshows.length_eq, Frame.length_busyTicks, Nat.add_comm]
  · refine hshows.imp ?_
    rintro count status ⟨reached, reachedDone, reachedEvents, hreached, hsequence, rfl⟩
    refine ⟨_, Replay.report_of_follow hne hreached, ?_⟩
    rw [statusOf, Recognizer.length, hsequence]
  · intro others final' after hothers hfinal'
    refine run_of_follow hne ?_
    rw [← hfollow]
    exact (follow_congr hgroups (not_isQuit_perm hothers hgroups) hlast hfinal'
      (framesOf_perm map hothers) _ rest after).symm

/-- A chord and a single button, entered in three ticks, and then a key that quits in one
tick with a bound one. -/
theorem run_refines_replay_chord :
    ∃ final acts,
      run { sequence := [.ofButton .a ||| .ofButton .b, .ofButton .start] } .default
          ([[.key ⟨.char 'b', []⟩ .press, .key ⟨.esc, []⟩ .release,
              .key ⟨.char 'A', [.shift]⟩ .repetition],
            [.other], [.key ⟨.enter, []⟩ .press]] ++
            [.key ⟨.up, []⟩ .press, .key ⟨.esc, []⟩ .press] :: []) = .ok (final, acts) ∧
        final.recognizer.completions = 1 ∧ (drawings acts).length = 3 := by
  obtain ⟨final, acts, report, hrun, hreport, hcompletions, -, -, hdrawings, -⟩ :=
    @run_refines_replay { sequence := [.ofButton .a ||| .ofButton .b, .ofButton .start] } .default
      [[.key ⟨.char 'b', []⟩ .press, .key ⟨.esc, []⟩ .release,
          .key ⟨.char 'A', [.shift]⟩ .repetition],
        [.other], [.key ⟨.enter, []⟩ .press]]
      [.key ⟨.up, []⟩ .press, .key ⟨.esc, []⟩ .press]
      rfl (by decide) (by decide) []
  refine ⟨final, acts, hrun, ?_, ?_⟩
  · rw [hcompletions]
    cases hreport
    rfl
  · rw [hdrawings]
    rfl

end Watch
end ButtonCombo
