import ButtonCombo.Proofs.Tick
import ButtonCombo.Session

/-!
# What a tick does to a session

A tick of a session reads the source of the recognizer, lets the recognizer take the
sample, and calls the callback if the sequence is complete.  The session between the
sample and the callback is `afterSample`.

A host that leaves the set-up alone only lets ticks pass and works on the sources.  The
ticks of such a run, each with its sample and its answer, are `ticks`; as long as the
callback returns they are the ticks of a lone recognizer.

Main facts:

* `advance_of_ne_completed`, `advance_of_completed`: a tick without and with a callback;
* `advance_cases`: the recognizer and the answer after a tick, however it ends;
* `ticks_eq_follow`: the ticks of a session as a run of its recognizer.
-/

namespace ButtonCombo

/-- The callback does not return. -/
def Reaction.fails
    {C : Type} : Reaction C → Bool
  | observe | write .. => false
  | fail _ => true

theorem Reaction.fails_iff
    {C : Type}
    {reaction : Reaction C} :
    reaction.fails = true ↔ ∃ message, reaction = .fail message := by
  cases reaction <;> simp [fails]

namespace Session

variable {C : Type}

/-- A callback that returns lets the recognizer start over. -/
theorem callBack_of_returns
    {reactions : Nat → Reaction C}
    (s : Session C)
    {callback : CallbackRef}
    (h : (reactions callback.name).fails = false) :
    (s.callBack reactions callback).1.recognizer = s.recognizer.restart .completed ∧
      (s.callBack reactions callback).2 =
        (.stepped .completed, [.call (.ofRecognizer callback.name s.recognizer)]) := by
  unfold callBack
  cases hreaction : reactions callback.name with
  | observe => exact ⟨rfl, rfl⟩
  | write source change => exact ⟨rfl, rfl⟩
  | fail message =>
      rw [hreaction] at h
      cases h

/-- A callback that fails leaves the session as it was when it was called. -/
theorem callBack_of_fail
    {reactions : Nat → Reaction C}
    (s : Session C)
    {callback : CallbackRef}
    {message : String}
    (h : reactions callback.name = .fail message) :
    s.callBack reactions callback =
      (s, .interrupted message, [.call (.ofRecognizer callback.name s.recognizer)]) := by
  simp only [callBack, h]

/-- The operation leaves the set-up alone: it lets a tick pass or works on a source. -/
def Op.listens : Op C → Bool
  | advance | write .. | sample .. => true
  | configure .. | build .. | renew | reset | unconfigure => false

section Ticks

variable [BEq C]

/-- The session after its recognizer has taken a sample of the source, before any
callback. -/
def afterSample
    (s : Session C)
    (source : SourceId) : Session C :=
  { s with recognizer := (s.recognizer.consume (s.sources source).read.1).1 }.putSource source
    (s.sources source).read.2

variable
  {reactions : Nat → Reaction C}
  {s : Session C}
  {source : SourceId}
  {callback : CallbackRef}

/-- A tick that does not complete the sequence calls nothing. -/
theorem advance_of_ne_completed
    (hparts : s.recognizer.parts? = some (source, callback))
    (hstep : (s.recognizer.consume (s.sources source).read.1).2.1 ≠ .completed) :
    s.advance reactions =
      (s.afterSample source,
        .stepped (s.recognizer.consume (s.sources source).read.1).2.1,
        .read source ::
          (s.recognizer.consume (s.sources source).read.1).2.2.map .report) := by
  simp only [advance, hparts, hstep, if_false, afterSample]

/-- A tick that completes the sequence calls the callback once. -/
theorem advance_of_completed
    (hparts : s.recognizer.parts? = some (source, callback))
    (hstep : (s.recognizer.consume (s.sources source).read.1).2.1 = .completed) :
    s.advance reactions =
      (((s.afterSample source).callBack reactions callback).1,
        ((s.afterSample source).callBack reactions callback).2.1,
        .read source ::
          (s.recognizer.consume (s.sources source).read.1).2.2.map .report ++
            ((s.afterSample source).callBack reactions callback).2.2) := by
  simp only [advance, hparts, hstep, if_true, afterSample]

/-- The three ways in which a tick ends: no callback is due, it returns, or it fails. -/
theorem advance_cases
    (reactions : Nat → Reaction C)
    (hparts : s.recognizer.parts? = some (source, callback)) :
    ((s.recognizer.consume (s.sources source).read.1).2.1 ≠ .completed ∧
        (s.advance reactions).1.recognizer =
          (s.recognizer.consume (s.sources source).read.1).1 ∧
        (s.advance reactions).2.1 =
          .stepped (s.recognizer.consume (s.sources source).read.1).2.1) ∨
      ((s.recognizer.consume (s.sources source).read.1).2.1 = .completed ∧
        (reactions callback.name).fails = false ∧
        (s.advance reactions).1.recognizer =
          { (s.recognizer.consume (s.sources source).read.1).1 with progress := 0 } ∧
        (s.advance reactions).2.1 = .stepped .completed) ∨
      ((s.recognizer.consume (s.sources source).read.1).2.1 = .completed ∧
        (reactions callback.name).fails = true ∧
        (s.advance reactions).1.recognizer =
          (s.recognizer.consume (s.sources source).read.1).1 ∧
        ∃ message, (s.advance reactions).2.1 = .interrupted message) := by
  by_cases hstep : (s.recognizer.consume (s.sources source).read.1).2.1 = .completed
  · rw [advance_of_completed hparts hstep]
    cases hfails : (reactions callback.name).fails with
    | false =>
        obtain ⟨hcalled, hreply⟩ := callBack_of_returns (s.afterSample source) hfails
        rw [hcalled, hreply]
        exact Or.inr (Or.inl ⟨hstep, rfl, rfl, rfl⟩)
    | true =>
        obtain ⟨message, hreaction⟩ := Reaction.fails_iff.mp hfails
        rw [callBack_of_fail _ hreaction]
        exact Or.inr (Or.inr ⟨hstep, rfl, rfl, message, rfl⟩)
  · rw [advance_of_ne_completed hparts hstep]
    exact Or.inl ⟨hstep, rfl, rfl⟩

/-- With a callback that returns, a tick of the session is a tick of its recognizer. -/
theorem advance_of_returns
    (hparts : s.recognizer.parts? = some (source, callback))
    (hcallback : (reactions callback.name).fails = false) :
    ∃ next step events,
      s.recognizer.advance (s.sources source).read.1 = .ok (next, step, events) ∧
      next.parts? = some (source, callback) ∧
      (s.advance reactions).1.recognizer = next ∧
      (s.advance reactions).2.1 = .stepped step := by
  have hconfigured := Recognizer.isConfigured_of_parts? hparts
  refine ⟨_, _, _, Recognizer.advance_of_isConfigured hconfigured _, ?_, ?_⟩
  · rw [Recognizer.restart_parts?, Recognizer.consume_parts?, hparts]
  · rcases advance_cases reactions hparts with
      ⟨hstep, hnext, hreply⟩ | ⟨hstep, -, hnext, hreply⟩ | ⟨-, hfails, -⟩
    · rw [Recognizer.restart_of_ne _ hstep]
      exact ⟨hnext, hreply⟩
    · rw [hstep, Recognizer.restart_completed]
      exact ⟨hnext, hreply⟩
    · rw [hcallback] at hfails
      cases hfails

end Ticks

section Listening

variable [BEq C]

/-- The ticks of a run, each with the sample it took and with its answer. -/
def ticks
    (reactions : Nat → Reaction C)
    (s : Session C) : List (Op C) → List (Option C × Reply C)
  | [] => []
  | op :: ops =>
      let (next, reply, _) := s.step reactions op
      match op, s.recognizer.parts? with
      | .advance, some (source, _) =>
          ((s.sources source).read.1, reply) :: next.ticks reactions ops
      | _, _ => next.ticks reactions ops

variable
  {reactions : Nat → Reaction C}
  {source : SourceId}
  {callback : CallbackRef}

/-- As long as the host only listens and the callback returns, the ticks of a session are
the ticks of its recognizer. -/
theorem ticks_eq_follow
    (hcallback : (reactions callback.name).fails = false)
    {ops : List (Op C)}
    (hops : ∀ op ∈ ops, op.listens = true)
    {s : Session C}
    (hparts : s.recognizer.parts? = some (source, callback)) :
    ∃ steps,
      s.recognizer.follow ((s.ticks reactions ops).map Prod.fst) =
        .ok ((s.run reactions ops).1.recognizer, steps) ∧
      (s.ticks reactions ops).map Prod.snd = steps.map .stepped := by
  induction ops generalizing s with
  | nil => exact ⟨[], rfl, rfl⟩
  | cons op ops ih =>
      have hrest : ∀ op ∈ ops, op.listens = true :=
        fun op hop => hops op (List.mem_cons_of_mem _ hop)
      cases op with
      | advance =>
          obtain ⟨next, step, events, hadvance, hnext, hrecognizer, hreply⟩ :=
            advance_of_returns hparts hcallback
          obtain ⟨steps, hfollow, hreplies⟩ :=
            ih hrest (s := (s.advance reactions).1) (by rw [hrecognizer, hnext])
          refine ⟨step :: steps, ?_, ?_⟩
          · simp only [ticks, hparts, List.map_cons]
            rw [hrecognizer] at hfollow
            exact Recognizer.follow_cons hadvance hfollow
          · simp only [ticks, hparts, List.map_cons, Session.step, hreply, hreplies]
      | write id change => exact ih hrest (s := s.writeSource id change) hparts
      | sample id => exact ih hrest (s := s.putSource id _) hparts
      | configure => cases hops _ List.mem_cons_self
      | build => cases hops _ List.mem_cons_self
      | renew => cases hops _ List.mem_cons_self
      | reset => cases hops _ List.mem_cons_self
      | unconfigure => cases hops _ List.mem_cons_self

end Listening
end Session
end ButtonCombo
