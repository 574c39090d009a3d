import ButtonCombo.Proofs.Leftover
import ButtonCombo.Recognizer.Report

/-!
# Callbacks that fail

A session whose callbacks may fail is compared with the same session in which each of
them returns instead, having seen the same.  The two go in lockstep: settling the
recognizer of the first gives the second at any time.  So a failure changes no answer but
its own, no effect and no field but the progress, and that only until the progress is set
again.

Main facts:

* `step_settled`, `run_settled`: settling commutes with every operation and every run;
* `leftoverDropped`: a tick treats a leftover completion as no progress at all;
* `run_failing_callbacks`: the comparison of the two sessions.
-/

namespace ButtonCombo

variable {C : Type}

/-- The reaction of a callback that sees the same and returns. -/
def Reaction.returning : Reaction C → Reaction C
  | observe | fail _ => observe
  | write source change => write source change

/-- The answer that stands in place of an interruption when the callback returns. -/
def Session.Reply.uninterrupted : Session.Reply C → Session.Reply C
  | interrupted _ => stepped .completed
  | reply => reply

namespace Recognizer

theorem settle_of_progress_zero
    {r : Recognizer C}
    (h : r.progress = 0) :
    r.settle = r :=
  settle_eq_self_iff.mpr (Or.inl h)

theorem reset_settle
    (r : Recognizer C) :
    r.settle.reset = r.reset := by
  simp [reset]

theorem unconfigure_settle
    (r : Recognizer C) :
    r.settle.unconfigure = r.unconfigure := by
  simp [unconfigure, reset]

variable [BEq C]

theorem configure_settle
    (r : Recognizer C)
    (sequence : List C)
    (source : SourceId)
    (callback : CallbackRef) :
    r.settle.configure sequence source callback =
      (r.configure sequence source callback).map fun (next, events) => (next.settle, events) := by
  by_cases hempty : sequence = []
  · subst sequence
    rfl
  · cases hconfigured : r.isConfigured with
    | true =>
        have hsame : r.settle.isConfiguredWith sequence source callback =
            r.isConfiguredWith sequence source callback := by
          simp [isConfiguredWith]
        rw [configure_again hconfigured hempty,
          configure_again (r.settle_isConfigured.trans hconfigured) hempty, hsame]
        split <;> rfl
    | false =>
        rw [configure_fresh hconfigured hempty,
          configure_fresh (r.settle_isConfigured.trans hconfigured) hempty]
        simp [Except.map, settle_of_progress_zero]

end Recognizer

namespace Session

/-- The session with a leftover completion of its recognizer dropped. -/
def settled (s : Session C) : Session C :=
  { s with recognizer := s.recognizer.settle }

theorem settled_of_settle_eq
    {s : Session C}
    (h : s.recognizer.settle = s.recognizer) :
    s.settled = s := by
  rw [settled, h]

/-- A failed callback leaves what settles to the session after a callback that
returned. -/
theorem callBack_returning
    (reactions : Nat → Reaction C)
    {s : Session C}
    (h : s.recognizer.progress = s.recognizer.length)
    (callback : CallbackRef) :
    s.callBack (fun name => (reactions name).returning) callback =
      ((s.callBack reactions callback).1.settled,
        (s.callBack reactions callback).2.1.uninterrupted,
        (s.callBack reactions callback).2.2) := by
  have hrestart : ({ s with recognizer := s.recognizer.restart .completed } : Session C) =
      s.settled := by
    rw [settled, Recognizer.settle_of_le (Nat.le_of_eq h.symm)]
    rfl
  cases hreaction : reactions callback.name with
  | fail message =>
      simp only [callBack, hreaction, Reaction.returning, Reply.uninterrupted]
      rw [hrestart]
  | observe =>
      simp only [callBack, hreaction, Reaction.returning, Reply.uninterrupted]
      rw [hrestart, settled_of_settle_eq (s := s.settled) s.recognizer.settle_settle]
  | write id change =>
      simp only [callBack, hreaction, Reaction.returning, Reply.uninterrupted]
      rw [hrestart, settled_of_settle_eq (s := s.settled.writeSource id change)
        s.recognizer.settle_settle]

/-- What an operation puts in place of the recognizer settles to what it puts in place of
the settled one. -/
theorem replace_settled
    (s : Session C)
    (outcome : Except Recognizer.Error (Recognizer C × List (Recognizer.Event C))) :
    s.settled.replace (outcome.map fun (next, events) => (next.settle, events)) =
      ((s.replace outcome).1.settled,
        (s.replace outcome).2.1.uninterrupted,
        (s.replace outcome).2.2) := by
  cases outcome <;> rfl

variable [BEq C]

theorem afterSample_settled
    (s : Session C)
    (source : SourceId) :
    s.settled.afterSample source = s.afterSample source := by
  simp only [afterSample, settled, Recognizer.consume_settle, putSource]

theorem advance_settled
    (reactions : Nat → Reaction C)
    (s : Session C) :
    s.settled.advance (fun name => (reactions name).returning) =
      ((s.advance reactions).1.settled,
        (s.advance reactions).2.1.uninterrupted,
        (s.advance reactions).2.2) := by
  cases hparts : s.recognizer.parts? with
  | none =>
      have hsettled : s.settled.recognizer.parts? = none :=
        s.recognizer.settle_parts?.trans hparts
      rw [advance_unconfigured _ hsettled, advance_unconfigured _ hparts]
      rfl
  | some parts =>
      obtain ⟨source, callback⟩ := parts
      have hsettled : s.settled.recognizer.parts? = some (source, callback) :=
        s.recognizer.settle_parts?.trans hparts
      have hconsume : s.settled.recognizer.consume (s.settled.sources source).read.1 =
          s.recognizer.consume (s.sources source).read.1 :=
        s.recognizer.consume_settle _
      have hlength :=
        Recognizer.length_pos_of_isConfigured (Recognizer.isConfigured_of_parts? hparts)
      have hafter : (s.afterSample source).recognizer.length = s.recognizer.length :=
        s.recognizer.consume_length _
      rcases Recognizer.consume_progress hlength (s.sources source).read.1 with
        ⟨hstep, hprogress⟩ | ⟨hstep, hprogress⟩
      · rw [advance_of_completed hparts hstep,
          advance_of_completed hsettled (by rw [hconsume]; exact hstep),
          hconsume, afterSample_settled,
          callBack_returning reactions (hprogress.trans hafter.symm)]
      · rw [advance_of_ne_completed hparts hstep,
          advance_of_ne_completed hsettled (by rw [hconsume]; exact hstep),
          hconsume, afterSample_settled]
        rw [settled_of_settle_eq]
        · rfl
        · exact Recognizer.settle_of_lt (by rw [hafter]; exact hprogress)

theorem build_map_settle
    (draft : Recognizer.Draft C) :
    (draft.build.map fun (next, events) => (next.settle, events)) = draft.build := by
  cases hbuild : draft.build with
  | error error => rfl
  | ok outcome =>
      obtain ⟨next, events⟩ := outcome
      obtain ⟨sequence, source, callback, -, rfl⟩ := Recognizer.build_eq_ok hbuild
      simp only [Except.map]
      rw [Recognizer.settle_of_progress_zero rfl]

/-- Settling commutes with every operation. -/
theorem step_settled
    (reactions : Nat → Reaction C)
    (s : Session C)
    (op : Op C) :
    s.settled.step (fun name => (reactions name).returning) op =
      ((s.step reactions op).1.settled,
        (s.step reactions op).2.1.uninterrupted,
        (s.step reactions op).2.2) := by
  cases op with
  | configure sequence source callback =>
      simp only [step]
      rw [← replace_settled, ← Recognizer.configure_settle]
      rfl
  | build draft =>
      simp only [step]
      rw [← replace_settled, build_map_settle]
  | renew => rfl
  | advance => exact advance_settled reactions s
  | reset =>
      have hreset : s.settled.recognizer.reset = s.recognizer.reset.settle := by
        rw [Recognizer.settle_of_progress_zero rfl]
        exact s.recognizer.reset_settle
      simp only [step, hreset]
      rfl
  | unconfigure =>
      have hunconfigure : s.settled.recognizer.unconfigure =
          (s.recognizer.unconfigure.1.settle, s.recognizer.unconfigure.2) := by
        rw [Recognizer.settle_of_progress_zero rfl]
        exact s.recognizer.unconfigure_settle
      simp only [step, hunconfigure]
      rfl
  | write source change => rfl
  | sample source => rfl

/-- Settling commutes with every run. -/
theorem run_settled
    (reactions : Nat → Reaction C)
    (s : Session C)
    (ops : List (Op C)) :
    s.settled.run (fun name => (reactions name).returning) ops =
      ((s.run reactions ops).1.settled,
        (s.run reactions ops).2.map fun (reply, effects) => (reply.uninterrupted, effects)) := by
  induction ops generalizing s with
  | nil => rfl
  | cons op ops ih =>
      simp only [run, step_settled, ih, List.map_cons]

/-- Nothing but a tick is ever interrupted. -/
theorem eq_advance_of_interrupted
    {reactions : Nat → Reaction C}
    {s : Session C}
    {op : Op C}
    {message : String}
    (h : (s.step reactions op).2.1 = .interrupted message) :
    op = .advance := by
  have hreplace : ∀ outcome, (s.replace outcome).2.1 ≠ .interrupted message := by
    intro outcome
    cases outcome <;> simp [replace]
  cases op with
  | advance => rfl
  | configure => exact absurd h (hreplace _)
  | build => exact absurd h (hreplace _)
  | unconfigure => exact absurd h (hreplace _)
  | renew => cases h
  | reset => cases h
  | write => cases h
  | sample => cases h

theorem eq_advance_of_mem_run
    (reactions : Nat → Reaction C)
    (s : Session C)
    (ops : List (Op C)) :
    ∀ op reply effects message, (op, reply, effects) ∈ ops.zip (s.run reactions ops).2 →
      reply = .interrupted message → op = .advance := by
  induction ops generalizing s with
  | nil =>
      intro op reply effects message hmem
      simp at hmem
  | cons first ops ih =>
      intro op reply effects message hmem hreply
      simp only [run, List.zip_cons_cons, List.mem_cons] at hmem
      rcases hmem with hfirst | hrest
      · cases hfirst
        exact eq_advance_of_interrupted hreply
      · exact ih _ op reply effects message hrest hreply

section Leftovers

variable {s : Session C}

/-- A tick is answered with the step of its sample unless the callback fails. -/
theorem uninterrupted_advance
    (reactions : Nat → Reaction C)
    {source : SourceId}
    {callback : CallbackRef}
    (hparts : s.recognizer.parts? = some (source, callback)) :
    (s.advance reactions).2.1.uninterrupted =
      .stepped (s.recognizer.consume (s.sources source).read.1).2.1 := by
  rcases advance_cases reactions hparts with
    ⟨-, -, hreply⟩ | ⟨hstep, -, -, hreply⟩ | ⟨hstep, -, -, message, hreply⟩
  · rw [hreply]
    rfl
  · rw [hreply, hstep]
    rfl
  · rw [hreply, hstep]
    rfl

/-- The session holds a leftover completion, and its next tick treats that as no progress
at all: it expects the first code, loses nothing, and completes the sequence only if one
code is all of it. -/
structure LeftoverDropped
    (reactions : Nat → Reaction C)
    (s : Session C) : Prop where
  length_pos : 0 < s.recognizer.length
  progress_eq : s.recognizer.progress = s.recognizer.length
  expected_eq : s.recognizer.sequence[s.recognizer.settle.progress]? = s.recognizer.sequence.head?
  lost_eq : ∀ lost, (s.advance reactions).2.1 = .stepped (.reset lost) → lost = 0
  length_eq : (s.advance reactions).2.1.uninterrupted = .stepped .completed →
    s.recognizer.length = 1

theorem leftoverDropped
    (reactions : Nat → Reaction C)
    (hconfigured : s.recognizer.isConfigured = true)
    (hfull : s.recognizer.progress = s.recognizer.length) :
    LeftoverDropped reactions s := by
  obtain ⟨source, callback, hparts⟩ := Recognizer.isConfigured_iff.mp hconfigured
  have hlength := Recognizer.length_pos_of_isConfigured hconfigured
  have hsettle : s.recognizer.settle.progress = 0 := by
    rw [Recognizer.settle_of_le (Nat.le_of_eq hfull.symm)]
  have hreply := uninterrupted_advance reactions hparts
  have hstep : (s.recognizer.consume (s.sources source).read.1).2.1 = .idle ∨
      (s.recognizer.consume (s.sources source).read.1).2.1 = .reset 0 ∨
      (s.recognizer.consume (s.sources source).read.1).2.1 = .matched 1 ∨
      ((s.recognizer.consume (s.sources source).read.1).2.1 = .completed ∧
        s.recognizer.length = 1) := by
    cases (s.sources source).read.1 with
    | none => exact Or.inl rfl
    | some code =>
        obtain ⟨expected, -, hcases⟩ := Recognizer.consume_some hlength code
        rw [hsettle] at hcases
        rcases hcases with hwrong | hmore | hlast
        · rw [hwrong.2]
          exact Or.inr (Or.inl rfl)
        · rw [hmore.2.2]
          exact Or.inr (Or.inr (Or.inl rfl))
        · rw [hlast.2.2]
          exact Or.inr (Or.inr (Or.inr ⟨rfl, hlast.2.1.symm⟩))
  refine ⟨hlength, hfull, ?_, ?_, ?_⟩
  · rw [hsettle, List.head?_eq_getElem?]
  · intro lost hlost
    rw [hlost] at hreply
    have hstepLost := Reply.stepped.inj hreply
    rcases hstep with h | h | h | ⟨h, -⟩
    · rw [h] at hstepLost
      cases hstepLost
    · rw [h] at hstepLost
      exact Recognizer.Step.reset.inj hstepLost
    · rw [h] at hstepLost
      cases hstepLost
    · rw [h] at hstepLost
      cases hstepLost
  · intro hcompleted
    rw [hcompleted] at hreply
    have hstepCompleted := Reply.stepped.inj hreply
    rcases hstep with h | h | h | ⟨-, hone⟩
    · rw [h] at hstepCompleted
      cases hstepCompleted
    · rw [h] at hstepCompleted
      cases hstepCompleted
    · rw [h] at hstepCompleted
      cases hstepCompleted
    · exact hone

end Leftovers

/-- **Failing callbacks are transparent.**  The session in which every callback returns
has the same sources, the same recognizer up to its progress, the same answers up to the
interruptions, and the same effects.  The progress differs exactly while the last operation
that set it was a tick whose callback failed; that leftover is dropped by the next tick. -/
theorem run_failing_callbacks
    (reactions : Nat → Reaction C)
    (sources : SourceId → Source C)
    (ops : List (Op C)) :
    let failing := run reactions { sources } ops
    let returning := run (fun name => (reactions name).returning) { sources } ops
    let r := failing.1.recognizer
    let t := returning.1.recognizer
    let setter := lastSetter reactions { sources } ops
    returning.1.sources = failing.1.sources ∧
    (t.sequence = r.sequence ∧ t.source = r.source ∧ t.callback = r.callback ∧
      t.active = r.active ∧ t.completions = r.completions) ∧
    returning.2 =
      failing.2.map (fun (reply, effects) => (reply.uninterrupted, effects)) ∧
    (∀ op reply effects message, (op, reply, effects) ∈ ops.zip failing.2 →
      reply = .interrupted message → op = .advance) ∧
    (Interrupted setter → t.progress = 0 ∧ LeftoverDropped reactions failing.1) ∧
    (¬ Interrupted setter → t = r ∧ ∀ code, t.describe code = r.describe code) := by
  intro failing returning r t setter
  have hstart : ({ sources } : Session C).settled = { sources } :=
    settled_of_settle_eq (Recognizer.settle_of_progress_zero rfl)
  have hrun := run_settled reactions ({ sources } : Session C) ops
  rw [hstart] at hrun
  have hsession : returning.1 = failing.1.settled := congrArg Prod.fst hrun
  have hoperation : t = r.settle := congrArg Session.recognizer hsession
  have hmarked : Marked setter r := marked_run reactions sources ops
  refine ⟨?_, ⟨?_, ?_, ?_, ?_, ?_⟩, congrArg Prod.snd hrun,
    eq_advance_of_mem_run reactions { sources } ops, ?_, ?_⟩
  · rw [hsession, settled]
  · rw [hoperation, Recognizer.settle_sequence]
  · rw [hoperation, Recognizer.settle_source]
  · rw [hoperation, Recognizer.settle_callback]
  · rw [hoperation, Recognizer.settle_active]
  · rw [hoperation, Recognizer.settle_completions]
  · intro hinterrupted
    obtain ⟨hconfigured, hfull⟩ := hmarked.full hinterrupted
    refine ⟨?_, leftoverDropped reactions hconfigured hfull⟩
    rw [hoperation, Recognizer.settle_of_le (Nat.le_of_eq hfull.symm)]
  · intro hreturned
    have hsame : t = r := hoperation.trans (hmarked.settled hreturned)
    exact ⟨hsame, fun code => by rw [hsame]⟩

example :
    (run (fun _ => .fail "out of order") { sources := fun _ => .latch (some 'a') }
      [.configure ['a'] 0 0, .advance]).1.recognizer.progress = 1 := by
  decide

end Session
end ButtonCombo
