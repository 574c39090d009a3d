import ButtonCombo.Proofs.SessionTick

/-!
# Leftover completions

A callback that fails leaves the progress at the full length.  That leftover stays until
the progress is set again: by a tick, by a reset, by taking the recognizer down or by
replacing it.  An operation that is refused, a set-up that changes nothing and all work
on the sources keep it.

`lastSetter` is the last operation of a run that set the progress.  The invariant is
`Marked`: the progress is the full length exactly if that operation was a tick whose
callback failed, and there is nothing to settle otherwise.

Main facts:

* `step_recognizer_of_keeps`: an operation that does not set the progress changes no field
  of the recognizer;
* `Marked.of_sets`: an operation that sets the progress establishes the invariant;
* `marked_run`: it holds after every run of a new session.
-/

namespace ButtonCombo

namespace Recognizer

variable {C : Type} [BEq C]

/-- What a configuration that is accepted does: nothing, or a fresh set-up. -/
theorem configure_eq_ok
    {r next : Recognizer C}
    {sequence : List C}
    {source : SourceId}
    {callback : CallbackRef}
    {events : List (Event C)}
    (h : r.configure sequence source callback = .ok (next, events)) :
    sequence ≠ [] ∧
      ((r.isConfigured = true ∧ r.isConfiguredWith sequence source callback = true ∧ next = r)
        ∨ (r.isConfigured = false ∧
          next =
            { r with
              sequence, source := some source, callback := some callback, progress := 0 })) := by
  by_cases hempty : sequence = []
  · subst sequence
    rw [configure_empty] at h
    cases h
  · refine ⟨hempty, ?_⟩
    cases hconfigured : r.isConfigured with
    | true =>
        rw [configure_again hconfigured hempty] at h
        by_cases hsame : r.isConfiguredWith sequence source callback = true
        · rw [if_pos hsame] at h
          cases h
          exact Or.inl ⟨rfl, hsame, rfl⟩
        · rw [if_neg hsame] at h
          cases h
    | false =>
        rw [configure_fresh hconfigured hempty] at h
        cases h
        exact Or.inr ⟨rfl, rfl⟩

/-- What comes out of a construction: all parts, and nothing done yet. -/
theorem build_eq_ok
    {draft : Draft C}
    {next : Recognizer C}
    {events : List (Event C)}
    (h : draft.build = .ok (next, events)) :
    ∃ sequence source callback,
      sequence ≠ [] ∧
      next = { sequence, source := some source, callback := some callback } := by
  obtain ⟨sequence?, source?, callback?⟩ := draft
  cases sequence? with
  | none => cases h
  | some sequence =>
      cases source? with
      | none => cases h
      | some source =>
          cases callback? with
          | none => cases h
          | some callback =>
              obtain ⟨hne, hagain | hfresh⟩ := configure_eq_ok h
              · cases hagain.1
              · exact ⟨sequence, source, callback, hne, hfresh.2⟩

end Recognizer

namespace Session

variable {C : Type} [BEq C]

/-- The operation sets the progress: it takes a sample, or it sets the recognizer up,
takes it down, resets it or replaces it. -/
def Op.setsProgress
    (s : Session C) : Op C → Bool
  | advance => s.recognizer.isConfigured
  | configure sequence _ _ => !sequence.isEmpty && !s.recognizer.isConfigured
  | build draft => draft.build.isOk
  | renew | reset | unconfigure => true
  | write .. | sample .. => false

/-- The last operation of a run that set the progress, with its answer. -/
def lastSetter
    (reactions : Nat → Reaction C)
    (s : Session C) : List (Op C) → Option (Op C × Reply C)
  | [] => none
  | op :: ops =>
      let (next, reply, _) := s.step reactions op
      (next.lastSetter reactions ops).or
        (if op.setsProgress s then some (op, reply) else none)

/-- An operation that does not set the progress leaves the recognizer as it is. -/
theorem step_recognizer_of_keeps
    (reactions : Nat → Reaction C)
    {s : Session C}
    {op : Op C}
    (h : op.setsProgress s = false) :
    (s.step reactions op).1.recognizer = s.recognizer := by
  cases op with
  | configure sequence source callback =>
      simp only [Session.step]
      cases hconfigure : s.recognizer.configure sequence source (.shared callback) with
      | error error => rfl
      | ok outcome =>
          obtain ⟨hne, ⟨-, -, hsame⟩ | ⟨hfresh, -⟩⟩ := Recognizer.configure_eq_ok hconfigure
          · exact hsame
          · simp [Op.setsProgress, hne, hfresh] at h
  | build draft =>
      simp only [Session.step]
      simp only [Op.setsProgress] at h
      cases hbuild : draft.build with
      | error error => rfl
      | ok outcome =>
          rw [hbuild] at h
          cases h
  | advance =>
      have hparts : s.recognizer.parts? = none := by
        simpa [Op.setsProgress, Recognizer.isConfigured] using h
      simp only [Session.step]
      rw [advance_unconfigured reactions hparts]
  | renew => cases h
  | reset => cases h
  | unconfigure => cases h
  | write source change => rfl
  | sample source => rfl

/-- The operation was a tick whose callback failed. -/
def Interrupted : Option (Op C × Reply C) → Prop
  | some (.advance, .interrupted _) => True
  | _ => False

/-- How far the progress may be, given the last operation that set it. -/
structure Marked
    (setter : Option (Op C × Reply C))
    (r : Recognizer C) : Prop where
  full : Interrupted setter → r.isConfigured = true ∧ r.progress = r.length
  settled : ¬ Interrupted setter → r.settle = r

namespace Marked

omit [BEq C] in
theorem of_progress
    {setter : Option (Op C × Reply C)}
    {r : Recognizer C}
    (hsetter : ¬ Interrupted setter)
    (hprogress : r.progress = 0 ∨ r.progress < r.length) :
    Marked setter r where
  full := fun h => absurd h hsetter
  settled := fun _ => Recognizer.settle_eq_self_iff.mpr hprogress

variable {reactions : Nat → Reaction C} {s : Session C}

/-- A tick of a configured recognizer leaves the progress at the full length exactly if
its callback fails. -/
theorem advance
    {source : SourceId}
    {callback : CallbackRef}
    (hparts : s.recognizer.parts? = some (source, callback)) :
    Marked (some (.advance, (s.advance reactions).2.1)) (s.advance reactions).1.recognizer := by
  have hconfigured := Recognizer.isConfigured_of_parts? hparts
  have hlength := Recognizer.length_pos_of_isConfigured hconfigured
  have hprogress := Recognizer.consume_progress hlength (s.sources source).read.1
  rcases advance_cases reactions hparts with
    ⟨hstep, hnext, hreply⟩ | ⟨-, -, hnext, hreply⟩ | ⟨hstep, -, hnext, message, hreply⟩
  · rw [hnext, hreply]
    obtain ⟨hcompleted, -⟩ | ⟨-, hlt⟩ := hprogress
    · exact absurd hcompleted hstep
    · exact of_progress id (Or.inr (by rw [Recognizer.consume_length]; exact hlt))
  · rw [hnext, hreply]
    exact of_progress id (Or.inl rfl)
  · rw [hnext, hreply]
    obtain ⟨-, hfull⟩ | ⟨hne, -⟩ := hprogress
    · refine ⟨fun _ => ⟨?_, by rw [Recognizer.consume_length]; exact hfull⟩,
        fun h => absurd trivial h⟩
      exact Recognizer.isConfigured_of_parts? ((s.recognizer.consume_parts? _).trans hparts)
    · exact absurd hstep hne

/-- An operation that sets the progress leaves it where its answer says. -/
theorem of_sets
    {op : Op C}
    (h : op.setsProgress s = true) :
    Marked (some (op, (s.step reactions op).2.1)) (s.step reactions op).1.recognizer := by
  cases op with
  | configure sequence source callback =>
      simp only [Op.setsProgress, Bool.and_eq_true, Bool.not_eq_true',
        List.isEmpty_eq_false_iff] at h
      simp only [Session.step]
      rw [Recognizer.configure_fresh h.2 h.1]
      exact of_progress id (Or.inl rfl)
  | build draft =>
      simp only [Session.step]
      simp only [Op.setsProgress] at h
      cases hbuild : draft.build with
      | error error =>
          rw [hbuild] at h
          cases h
      | ok outcome =>
          obtain ⟨sequence, source, callback, -, hnext⟩ := Recognizer.build_eq_ok hbuild
          refine of_progress id (Or.inl ?_)
          simp only [replace, hnext]
  | advance =>
      obtain ⟨source, callback, hparts⟩ := Recognizer.isConfigured_iff.mp h
      exact Marked.advance hparts
  | renew => exact of_progress id (Or.inl rfl)
  | reset => exact of_progress id (Or.inl rfl)
  | unconfigure => exact of_progress id (Or.inl rfl)
  | write source change => cases h
  | sample source => cases h

/-- A run keeps the invariant, whatever set the progress before it. -/
theorem run
    {setter : Option (Op C × Reply C)}
    (h : Marked setter s.recognizer)
    (ops : List (Op C)) :
    Marked ((s.lastSetter reactions ops).or setter) (s.run reactions ops).1.recognizer := by
  induction ops generalizing s setter with
  | nil => exact h
  | cons op ops ih =>
      simp only [lastSetter, Session.run]
      rw [Option.or_assoc]
      apply ih
      cases hset : op.setsProgress s with
      | true => exact of_sets hset
      | false =>
          rw [step_recognizer_of_keeps reactions hset]
          exact h

end Marked

/-- After any run of a new session the progress is what the last operation that set it
allows. -/
theorem marked_run
    (reactions : Nat → Reaction C)
    (sources : SourceId → Source C)
    (ops : List (Op C)) :
    Marked (lastSetter reactions { sources } ops)
      (run reactions { sources } ops).1.recognizer := by
  have hnew : Marked none (Recognizer.new : Recognizer C) :=
    Marked.of_progress id (Or.inl rfl)
  rw [← Option.or_none (o := lastSetter reactions { sources } ops)]
  exact hnew.run ops

end Session
end ButtonCombo
