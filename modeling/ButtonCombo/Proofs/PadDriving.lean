import ButtonCombo.Proofs.PadEdges
import ButtonCombo.Proofs.Coherence

/-!
# Driving a recognizer with a pad

A host that knows what is held can as well report what is newly held: the recognizer does
not see the difference.  The two sessions then differ in the pad at most.  Such sessions
stay alike as long as each tick reads the same sample in both and the callback leaves the
pad alone.

Main facts:

* `AgreesApart.advance`: a tick of two sessions that differ in one source;
* `advance_pad`: a tick leaves a pad as it is;
* `run_drive`: a whole run of updates beside the run of presses;
* `edges_exact`: what goes down on a pad, in runs of its operations and of a recognizer.
-/

namespace ButtonCombo

/-- The callback does not write to this source. -/
def Reaction.Spares
    {C : Type}
    (reaction : Reaction C)
    (id : SourceId) : Prop :=
  ∀ change, reaction ≠ .write id change

namespace Session

variable {C : Type}

/-- Two sessions that differ in this source at most. -/
structure AgreesApart
    (id : SourceId)
    (s t : Session C) : Prop where
  recognizer : s.recognizer = t.recognizer
  sources : ∀ other, other ≠ id → s.sources other = t.sources other

variable
  {reactions : Nat → Reaction C}
  {id source : SourceId}
  {callback : CallbackRef}
  {s t : Session C}

theorem sources_putSource_self
    (s : Session C)
    (id : SourceId)
    (x : Source C) :
    (s.putSource id x).sources id = x :=
  if_pos rfl

theorem sources_putSource_of_ne
    {other : SourceId}
    (h : other ≠ id)
    (s : Session C)
    (x : Source C) :
    (s.putSource id x).sources other = s.sources other :=
  if_neg h

theorem sources_writeSource_self
    (s : Session C)
    (id : SourceId)
    (change : Write C) :
    (s.writeSource id change).sources id = (s.sources id).write change :=
  s.sources_putSource_self id _

theorem AgreesApart.refl
    (id : SourceId)
    (s : Session C) :
    AgreesApart id s s :=
  ⟨rfl, fun _ _ => rfl⟩

/-- The same source is exchanged in both sessions, by the same one unless it is the source
in which they differ. -/
theorem AgreesApart.putSource
    (h : AgreesApart id s t)
    (k : SourceId)
    {x y : Source C}
    (hxy : k ≠ id → x = y) :
    AgreesApart id (s.putSource k x) (t.putSource k y) := by
  refine ⟨h.recognizer, fun other hother => ?_⟩
  by_cases hk : other = k
  · subst hk
    rw [sources_putSource_self, sources_putSource_self, hxy hother]
  · rw [sources_putSource_of_ne hk, sources_putSource_of_ne hk, h.sources other hother]

theorem AgreesApart.withRecognizer
    (h : AgreesApart id s t)
    (r : Recognizer C) :
    AgreesApart id { s with recognizer := r } { t with recognizer := r } :=
  ⟨rfl, h.sources⟩

/-- A callback that spares the source sees and does the same in both sessions. -/
theorem AgreesApart.callBack
    (h : AgreesApart id s t)
    (hspares : (reactions callback.name).Spares id) :
    AgreesApart id (s.callBack reactions callback).1 (t.callBack reactions callback).1 ∧
      (s.callBack reactions callback).2 = (t.callBack reactions callback).2 := by
  have hrestarted := h.withRecognizer (s.recognizer.restart .completed)
  unfold Session.callBack
  rw [← h.recognizer]
  cases hreaction : reactions callback.name with
  | observe => exact ⟨hrestarted, rfl⟩
  | fail message => exact ⟨h, rfl⟩
  | write k change =>
      have hk : k ≠ id := fun heq => hspares change (heq ▸ hreaction)
      exact ⟨hrestarted.putSource k fun _ => by rw [h.sources k hk], rfl⟩

/-- A callback that spares the source leaves it as it is. -/
theorem callBack_sources
    (s : Session C)
    (hspares : (reactions callback.name).Spares id) :
    (s.callBack reactions callback).1.sources id = s.sources id := by
  unfold callBack
  cases hreaction : reactions callback.name with
  | observe => rfl
  | fail message => rfl
  | write k change =>
      have hk : id ≠ k := fun heq => hspares change (heq ▸ hreaction)
      exact sources_putSource_of_ne hk _ _

section Ticks

variable [BEq C]

/-- The sample is the same in both sessions. -/
theorem AgreesApart.afterSample
    (h : AgreesApart id s t)
    (hread : (s.sources source).read.1 = (t.sources source).read.1) :
    AgreesApart id (s.afterSample source) (t.afterSample source) := by
  unfold Session.afterSample
  rw [← h.recognizer, hread]
  exact (h.withRecognizer _).putSource source fun hsource => by rw [h.sources source hsource]

/-- A tick that reads the same sample does the same in both sessions. -/
theorem AgreesApart.advance
    (h : AgreesApart id s t)
    (hparts : s.recognizer.parts? = some (source, callback))
    (hspares : (reactions callback.name).Spares id)
    (hread : (s.sources source).read.1 = (t.sources source).read.1) :
    AgreesApart id (s.advance reactions).1 (t.advance reactions).1 ∧
      (s.advance reactions).2 = (t.advance reactions).2 := by
  have hparts' : t.recognizer.parts? = some (source, callback) := by rw [← h.recognizer, hparts]
  have hafter := h.afterSample hread
  have hconsume : s.recognizer.consume (s.sources source).read.1 =
      t.recognizer.consume (t.sources source).read.1 := by rw [h.recognizer, hread]
  by_cases hstep : (s.recognizer.consume (s.sources source).read.1).2.1 = .completed
  · obtain ⟨hcalled, hsaid⟩ := hafter.callBack hspares
    rw [advance_of_completed hparts hstep, advance_of_completed hparts' (hconsume ▸ hstep)]
    exact ⟨hcalled, by rw [hsaid, hconsume]⟩
  · rw [advance_of_ne_completed hparts hstep, advance_of_ne_completed hparts' (hconsume ▸ hstep)]
    exact ⟨hafter, by rw [hconsume]⟩

/-- A tick leaves a pad as it is, whether it reads it or another source. -/
theorem advance_pad
    {pad : GamePad}
    {coding : FrameCode C}
    (hparts : s.recognizer.parts? = some (source, callback))
    (hspares : (reactions callback.name).Spares id)
    (hpad : s.sources id = .pad pad coding) :
    (s.advance reactions).1.sources id = .pad pad coding := by
  have hafter : (s.afterSample source).sources id = .pad pad coding := by
    by_cases hid : id = source
    · subst hid
      rw [afterSample, sources_putSource_self, hpad, Source.read_pad]
    · rw [afterSample, sources_putSource_of_ne hid, hpad]
  by_cases hstep : (s.recognizer.consume (s.sources source).read.1).2.1 = .completed
  · rw [advance_of_completed hparts hstep, callBack_sources _ hspares, hafter]
  · rw [advance_of_ne_completed hparts hstep, hafter]

end Ticks

section Driving

/-- Write one mask after the other to a source and let a tick pass after each. -/
def drive
    (id : SourceId)
    (write : Mask → Write C)
    (masks : List Mask) : List (Op C) :=
  masks.flatMap fun mask => [.write id (write mask), .advance]

variable [BEq C]

theorem run_drive_cons
    (reactions : Nat → Reaction C)
    (s : Session C)
    (id : SourceId)
    (write : Mask → Write C)
    (mask : Mask)
    (masks : List Mask) :
    s.run reactions (drive id write (mask :: masks)) =
      let ticked := (s.writeSource id (write mask)).advance reactions
      let rest := ticked.1.run reactions (drive id write masks)
      (rest.1, (.done, []) :: ticked.2 :: rest.2) := by
  rfl

/-- The run of updates and the run of what is newly held in them are the same but for the
pad. -/
theorem run_drive
    {pad other : GamePad}
    {coding : FrameCode C}
    (hspares : (reactions callback.name).Spares id)
    (updates : List Mask)
    (h : AgreesApart id s t)
    (hparts : s.recognizer.parts? = some (source, callback))
    (hs : s.sources id = .pad pad coding)
    (ht : t.sources id = .pad other coding) :
    AgreesApart id
        (s.run reactions (drive id .hold updates)).1
        (t.run reactions (drive id .press (newlyHeld pad.held updates))).1 ∧
      (s.run reactions (drive id .hold updates)).2 =
        (t.run reactions (drive id .press (newlyHeld pad.held updates))).2 := by
  induction updates generalizing s t pad other with
  | nil => exact ⟨h, rfl⟩
  | cons held rest ih =>
      have hwritten : AgreesApart id (s.writeSource id (.hold held))
          (t.writeSource id (.press (held.difference pad.held))) :=
        h.putSource id fun hne => absurd rfl hne
      have hupdated : (s.writeSource id (.hold held)).sources id =
          .pad (pad.update held) coding := by
        rw [sources_writeSource_self, hs, Source.write]
      have hpressed : (t.writeSource id (.press (held.difference pad.held))).sources id =
          .pad (other.press (held.difference pad.held)) coding := by
        rw [sources_writeSource_self, ht, Source.write]
      -- the frame is the same on both pads, and any other source is the same anyway
      have hread : ((s.writeSource id (.hold held)).sources source).read.1 =
          ((t.writeSource id (.press (held.difference pad.held))).sources source).read.1 := by
        by_cases hsource : source = id
        · rw [hsource, hupdated, hpressed]
          rfl
        · rw [hwritten.sources source hsource]
      have hparts' : (s.writeSource id (.hold held)).recognizer.parts? =
          some (source, callback) := hparts
      obtain ⟨hticked, hanswer⟩ := hwritten.advance hparts' hspares hread
      obtain ⟨hlast, hanswers⟩ := ih hticked
        ((parts?_advance reactions _).trans hparts')
        (advance_pad hparts' hspares hupdated)
        (advance_pad (hwritten.recognizer ▸ hparts') hspares hpressed)
      rw [newlyHeld_cons, run_drive_cons, run_drive_cons]
      exact ⟨hlast, congrArg₂ (fun answer answers => (.done, []) :: answer :: answers)
        hanswer hanswers⟩

end Driving
end Session

namespace GamePad

/-- **What goes down on a pad.**  After any operations on a new pad the last of them leaves
what it has to: an update leaves in the frame what it holds and what was not held before,
where only an update directly before it holds anything; a press leaves what is pressed, and
nothing is held after it; a clear leaves nothing.  A pad gives its frame as the sample
unless it is empty, and is the same pad afterwards.  In a run of updates a bit is therefore
in as many frames as there are longest blocks of updates that hold it.  And a configured
recognizer whose callback spares the pad cannot tell the updates from presses of what is
newly held in each: every answer, every read, report and call, the recognizer in the end and
all other sources are the same. -/
theorem edges_exact :
    (∀ (ops : List Op) (op : Op), Leaves (baseline ops) (new.run (ops ++ [op])) op) ∧
    (∀ (pad : GamePad) (mask : Mask),
      pad.sample = some mask ↔ pad.frame = mask ∧ mask ≠ .empty) ∧
    (∀ (pad : GamePad) (C : Type) (coding : FrameCode C),
      (Source.pad pad coding).read = (pad.sample.map coding.code, .pad pad coding)) ∧
    (∀ (updates : List Mask) (bit : Nat),
      ((new.frames updates).countP (·.bits.getLsbD bit) : ℕ∞) =
        Set.encard {block : Nat × Nat | HeldBlock updates bit block.1 block.2}) ∧
    (∀ (C : Type) [BEq C] (reactions : Nat → Reaction C) (s : Session C) (id source : SourceId)
      (callback : CallbackRef) (coding : FrameCode C) (updates : List Mask),
      s.recognizer.parts? = some (source, callback) →
      s.sources id = .pad new coding →
      (reactions callback.name).Spares id →
      let held := s.run reactions (Session.drive id .hold updates)
      let pressed := s.run reactions (Session.drive id .press (newlyHeld .empty updates))
      held.2 = pressed.2 ∧ held.1.AgreesApart id pressed.1) := by
  refine ⟨leaves_run, fun pad mask => sample_eq_some_iff, fun pad C coding => rfl,
    countP_frames, ?_⟩
  intro C _ reactions s id source callback coding updates hparts hpad hspares held pressed
  obtain ⟨hlast, hanswers⟩ :=
    Session.run_drive hspares updates (Session.AgreesApart.refl id s) hparts hpad hpad
  exact ⟨hanswers, hlast⟩

/-- A chord that is released one button at a time, and its first button once more. -/
theorem edges_exact_chord :
    let updates : List Mask := [⟨1⟩, ⟨3⟩, ⟨2⟩, ⟨0⟩, ⟨1⟩]
    let s : Session Mask := {
      recognizer := { sequence := [⟨1⟩, ⟨2⟩], source := some 0, callback := some (.shared 7) }
      sources := fun _ => .pad new .plain }
    let reactions : Nat → Reaction Mask := fun _ => .write 1 .clear
    let held := s.run reactions (Session.drive 0 .hold updates)
    let pressed := s.run reactions (Session.drive 0 .press [⟨1⟩, ⟨2⟩, ⟨0⟩, ⟨0⟩, ⟨1⟩])
    (reactions 7).Spares 0 ∧
      Set.encard {block : Nat × Nat | HeldBlock updates 0 block.1 block.2} = 2 ∧
      held.2.map Prod.fst =
        [.done, .stepped (.matched 1), .done, .stepped .completed, .done, .stepped .idle,
          .done, .stepped .idle, .done, .stepped (.matched 1)] ∧
      held.2 = pressed.2 ∧ held.1.AgreesApart 0 pressed.1 := by
  have hspares : (Reaction.write 1 .clear : Reaction Mask).Spares 0 := fun change heq => by
    cases heq
  obtain ⟨-, -, -, hcount, hdrive⟩ := edges_exact
  exact ⟨hspares, (hcount _ 0).symm, rfl,
    hdrive Mask (fun _ => .write 1 .clear) _ 0 0 (.shared 7) .plain
      [⟨1⟩, ⟨3⟩, ⟨2⟩, ⟨0⟩, ⟨1⟩] rfl rfl hspares⟩

end GamePad
end ButtonCombo
