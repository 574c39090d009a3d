import ButtonCombo.Proofs.Coherence

/-!
# Reads and calls

What an operation of a session does to its surroundings.  A tick of a configured
recognizer reads the recognizer's own source once, before anything else; apart from the
host's own samples nothing else reads a source.  The callback is called in the tick whose
sample is the last code of the sequence, once, and sees the recognizer completed.

Main facts:

* `consume_eq_completed_iff`: which samples complete the sequence;
* `effects_advance`, `effects_step`: all effects of a tick and of any operation;
* `reads_step`, `calls_step`: what an operation reads and calls.
-/

namespace ButtonCombo

variable {C : Type}

/-- The source that is read, if the effect is a read. -/
def Effect.read? : Effect C → Option SourceId
  | read source => some source
  | _ => none

namespace Recognizer

variable [BEq C]

/-- The sample is the last code of the sequence, and the codes before it have been
entered. -/
def Completes
    (r : Recognizer C)
    (sample : Option C) : Prop :=
  ∃ code last,
    sample = some code ∧
    r.settle.progress + 1 = r.length ∧
    r.sequence.getLast? = some last ∧
    (code == last) = true

/-- A tick completes the sequence exactly with its last code. -/
theorem consume_eq_completed_iff
    {r : Recognizer C}
    (hlength : 0 < r.length)
    (sample : Option C) :
    (r.consume sample).2.1 = .completed ↔ r.Completes sample := by
  cases sample with
  | none => simp [Completes]
  | some code =>
      obtain ⟨expected, hexpected, hcases⟩ := consume_some hlength code
      have hlast : r.settle.progress + 1 = r.length → r.sequence.getLast? = some expected := by
        intro hfull
        rw [← hexpected, List.getLast?_eq_getElem?]
        congr 1
        rw [length] at hfull
        omega
      rcases hcases with ⟨hcode, hconsume⟩ | ⟨-, hmore, hconsume⟩ | ⟨hcode, hfull, hconsume⟩
      · rw [hconsume]
        refine iff_of_false (by simp) ?_
        rintro ⟨other, last, hother, hfull, hgetLast, heq⟩
        cases hother
        rw [hlast hfull] at hgetLast
        cases hgetLast
        rw [hcode] at heq
        cases heq
      · rw [hconsume]
        refine iff_of_false (by simp) ?_
        rintro ⟨other, last, -, hfull, -⟩
        omega
      · rw [hconsume]
        exact iff_of_true rfl ⟨code, expected, rfl, hfull, hlast hfull, hcode⟩

end Recognizer

namespace Session

/-- The sources that are read, in order. -/
def reads (effects : List (Effect C)) : List SourceId :=
  effects.filterMap Effect.read?

/-- The calls of callbacks, in order. -/
def calls (effects : List (Effect C)) : List Call :=
  effects.filterMap Effect.call?

section Views

@[simp] theorem reads_append
    (effects more : List (Effect C)) :
    reads (effects ++ more) = reads effects ++ reads more :=
  List.filterMap_append

@[simp] theorem calls_append
    (effects more : List (Effect C)) :
    calls (effects ++ more) = calls effects ++ calls more :=
  List.filterMap_append

@[simp] theorem reads_report
    (events : List (Recognizer.Event C)) :
    reads (events.map .report) = [] := by
  simp [reads, Effect.read?]

@[simp] theorem calls_report
    (events : List (Recognizer.Event C)) :
    calls (events.map .report) = [] := by
  simp [calls, Effect.call?]

@[simp] theorem reads_read
    (sources : List SourceId) :
    reads (sources.map (.read : SourceId → Effect C)) = sources := by
  simp [reads, Effect.read?, Function.comp_def]

@[simp] theorem calls_read
    (sources : List SourceId) :
    calls (sources.map (.read : SourceId → Effect C)) = [] := by
  simp [calls, Effect.call?]

@[simp] theorem reads_call
    (due : List Call) :
    reads (due.map (.call : Call → Effect C)) = [] := by
  simp [reads, Effect.read?]

@[simp] theorem calls_call
    (due : List Call) :
    calls (due.map (.call : Call → Effect C)) = due := by
  simp [calls, Effect.call?, Function.comp_def]

end Views

/-- The source that an operation reads: a tick reads the source of a configured
recognizer, and the host reads a source to take a sample of its own. -/
def Op.source?
    (s : Session C) : Op C → Option SourceId
  | advance => s.recognizer.parts?.map Prod.fst
  | sample source => some source
  | configure .. | build .. | renew | reset | unconfigure | write .. => none

/-- What a callback sees when the sequence has been completed. -/
def completedCall
    (r : Recognizer C)
    (callback : CallbackRef) : Call where
  callback := callback.name
  progress := r.length
  length := r.length
  active := true
  completions := r.completions + 1
  configured := true

/-- The call of a callback is all that it is seen to do. -/
theorem callBack_effects
    (reactions : Nat → Reaction C)
    (s : Session C)
    (callback : CallbackRef) :
    (s.callBack reactions callback).2.2 =
      [.call (.ofRecognizer callback.name s.recognizer)] := by
  unfold callBack
  cases reactions callback.name <;> rfl

theorem effects_replace
    (s : Session C)
    (outcome : Except Recognizer.Error (Recognizer C × List (Recognizer.Event C))) :
    ∃ events : List (Recognizer.Event C),
      (s.replace outcome).2.2 = events.map .report := by
  cases outcome with
  | error error => exact ⟨[], rfl⟩
  | ok outcome => exact ⟨outcome.2, rfl⟩

variable [BEq C]

/-- The operation is a tick that completes the sequence, so that this callback is due. -/
def Op.Due
    (s : Session C)
    (callback : CallbackRef)
    (op : Op C) : Prop :=
  op = .advance ∧ ∃ source,
    s.recognizer.parts? = some (source, callback) ∧
    s.recognizer.Completes (s.sources source).read.1

section Ticks

variable
  {s : Session C}
  {source : SourceId}
  {callback : CallbackRef}

theorem completedCall_eq
    (hlength : 0 < s.recognizer.length)
    (hparts : s.recognizer.parts? = some (source, callback))
    (hstep : (s.recognizer.consume (s.sources source).read.1).2.1 = .completed) :
    Call.ofRecognizer callback.name (s.afterSample source).recognizer =
      completedCall s.recognizer callback := by
  have hafter := (s.recognizer.consume_parts? (s.sources source).read.1).trans hparts
  have hconfigured := Recognizer.isConfigured_of_parts? hafter
  rcases Recognizer.consume_fields hlength (s.sources source).read.1 with
    ⟨-, hnext⟩ | ⟨hne, -⟩
  · have hrecognizer : (s.afterSample source).recognizer =
        (s.recognizer.consume (s.sources source).read.1).1 := rfl
    rw [hrecognizer, Call.ofRecognizer, hconfigured, hnext]
    rfl
  · exact absurd hstep hne

/-- All effects of a tick: one read, reports, and the call if the sequence is complete. -/
theorem effects_advance
    (reactions : Nat → Reaction C)
    (hparts : s.recognizer.parts? = some (source, callback)) :
    ∃ (events : List (Recognizer.Event C)) (due : List Call),
      (s.advance reactions).2.2 = .read source :: (events.map .report ++ due.map .call) ∧
      (s.recognizer.Completes (s.sources source).read.1 →
        due = [completedCall s.recognizer callback]) ∧
      (¬ s.recognizer.Completes (s.sources source).read.1 → due = []) := by
  have hlength := Recognizer.length_pos_of_isConfigured (Recognizer.isConfigured_of_parts? hparts)
  have hcompletes := Recognizer.consume_eq_completed_iff hlength (s.sources source).read.1
  by_cases hstep : (s.recognizer.consume (s.sources source).read.1).2.1 = .completed
  · rw [advance_of_completed hparts hstep, callBack_effects,
      completedCall_eq hlength hparts hstep]
    exact ⟨_, [completedCall s.recognizer callback], rfl, fun _ => rfl,
      fun h => absurd (hcompletes.mp hstep) h⟩
  · rw [advance_of_ne_completed hparts hstep]
    exact ⟨(s.recognizer.consume (s.sources source).read.1).2.2, [], by simp,
      fun h => absurd (hcompletes.mpr h) hstep, fun _ => rfl⟩

end Ticks

section Steps

variable {s : Session C} {op : Op C}

/-- All effects of an operation: the read, if it reads; reports; and the call, if a
callback is due. -/
theorem effects_step
    (reactions : Nat → Reaction C)
    (s : Session C)
    (op : Op C) :
    ∃ (events : List (Recognizer.Event C)) (due : List Call),
      (s.step reactions op).2.2 =
        (op.source? s).toList.map .read ++ (events.map .report ++ due.map .call) ∧
      (∀ callback, op.Due s callback → due = [completedCall s.recognizer callback]) ∧
      ((∀ callback, ¬ op.Due s callback) → due = []) := by
  -- apart from a tick no operation is due to call, so only its reports are left to see
  have hother : op ≠ .advance → ∀ events : List (Recognizer.Event C),
      (s.step reactions op).2.2 = (op.source? s).toList.map .read ++ events.map .report →
      ∃ (events : List (Recognizer.Event C)) (due : List Call),
        (s.step reactions op).2.2 =
          (op.source? s).toList.map .read ++ (events.map .report ++ due.map .call) ∧
        (∀ callback, op.Due s callback → due = [completedCall s.recognizer callback]) ∧
        ((∀ callback, ¬ op.Due s callback) → due = []) := by
    intro hne events heffects
    refine ⟨events, [], by rw [heffects, List.map_nil, List.append_nil], ?_, fun _ => rfl⟩
    rintro callback ⟨hadvance, -⟩
    exact absurd hadvance hne
  cases op with
  | advance =>
      cases hparts : s.recognizer.parts? with
      | none =>
          refine ⟨[], [], ?_, ?_, fun _ => rfl⟩
          · simp only [step, advance_unconfigured reactions hparts, Op.source?, hparts]
            rfl
          · rintro callback ⟨-, source, hdue, -⟩
            rw [hparts] at hdue
            cases hdue
      | some parts =>
          obtain ⟨source, callback⟩ := parts
          obtain ⟨events, due, heffects, hcalled, hsilent⟩ := effects_advance reactions hparts
          refine ⟨events, due, ?_, ?_, ?_⟩
          · simp only [step, heffects, Op.source?, hparts]
            rfl
          · rintro other ⟨-, read, hdue, hcompletes⟩
            rw [hparts] at hdue
            cases hdue
            exact hcalled hcompletes
          · intro hnone
            exact hsilent fun hcompletes => hnone callback ⟨rfl, source, hparts, hcompletes⟩
  | configure sequence source callback =>
      obtain ⟨events, hevents⟩ := s.effects_replace
        (s.recognizer.configure sequence source (.shared callback))
      exact hother (by simp) events hevents
  | build draft =>
      obtain ⟨events, hevents⟩ := s.effects_replace draft.build
      exact hother (by simp) events hevents
  | unconfigure =>
      obtain ⟨events, hevents⟩ := s.effects_replace (.ok s.recognizer.unconfigure)
      exact hother (by simp) events hevents
  | renew => exact hother (by simp) [] rfl
  | reset => exact hother (by simp) [] rfl
  | write source change => exact hother (by simp) [] rfl
  | sample source => exact hother (by simp) [] rfl

/-- An operation reads one source at most, and reads it before anything else happens. -/
theorem reads_step
    (reactions : Nat → Reaction C)
    (s : Session C)
    (op : Op C) :
    reads (s.step reactions op).2.2 = (op.source? s).toList ∧
      ∀ source, op.source? s = some source →
        (s.step reactions op).2.2.head? = some (.read source) := by
  obtain ⟨events, due, heffects, -⟩ := effects_step reactions s op
  rw [heffects]
  refine ⟨by simp, ?_⟩
  intro source hsource
  rw [hsource]
  rfl

/-- A callback that is due is called once, and no other one is. -/
theorem calls_step
    (reactions : Nat → Reaction C)
    (s : Session C)
    (op : Op C) :
    (∀ callback, op.Due s callback →
        calls (s.step reactions op).2.2 = [completedCall s.recognizer callback]) ∧
      ((∀ callback, ¬ op.Due s callback) → calls (s.step reactions op).2.2 = []) := by
  obtain ⟨events, due, heffects, hdue, hsilent⟩ := effects_step reactions s op
  have hcalls : calls (s.step reactions op).2.2 = due := by
    rw [heffects]
    simp
  rw [hcalls]
  exact ⟨hdue, hsilent⟩

end Steps

end Session
end ButtonCombo
