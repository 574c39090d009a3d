import ButtonCombo.Proofs.Coherence
import Mathlib.Data.List.Forall2

/-!
# The lifecycle of a recognizer

A recognizer is set up, taken down and reset.  Which set-up is accepted depends on the parts
alone: a sequence without codes is always refused, a recognizer without parts takes any
other, and one with parts takes its own once more and refuses all else.  Its own are the
parts with the same identities and with a sequence that is equal code by code; a code that
equals no code makes every set-up a different one.

A set-up does not touch the memory of completions, so it agrees with a construction of the
same parts only because a recognizer without parts is a new one in every state that a
session reaches.  Whatever is refused leaves the session as it was.

Main facts:

* `isConfiguredWith_iff`: when a recognizer has the parts that it is given;
* `build_parts`, `build_reset`: the two ways to a recognizer that has done nothing yet;
* `step_refused`: a refusal changes nothing;
* `advance_refused_iff`: which ticks are refused;
* `reachable_lifecycle`: all of it for the states that a session reaches.
-/

namespace ButtonCombo

variable {C : Type}

namespace Recognizer

/-- The parts of the recognizer are the given ones: the codes are equal one by one in the
equality of their type, the source and the callback are the same objects. -/
structure HasParts
    [BEq C]
    (r : Recognizer C)
    (sequence : List C)
    (source : SourceId)
    (callback : CallbackRef) : Prop where
  sequence_eq : List.Forall₂ (fun stored given => (stored == given) = true) r.sequence sequence
  source_eq : r.source = some source
  callback_eq : r.callback = some callback

variable [BEq C]

/-- Two sequences are equal if they are equal code by code; nothing is assumed about the
equality of codes. -/
theorem sequence_beq_iff
    {sequence other : List C} :
    (sequence == other) = true ↔
      List.Forall₂ (fun stored given => (stored == given) = true) sequence other := by
  induction sequence generalizing other with
  | nil => cases other <;> simp
  | cons code codes ih =>
      cases other with
      | nil => simp
      | cons given rest => simp [ih]

theorem isConfiguredWith_iff
    {r : Recognizer C}
    {sequence : List C}
    {source : SourceId}
    {callback : CallbackRef} :
    r.isConfiguredWith sequence source callback = true ↔
      r.HasParts sequence source callback := by
  rw [isConfiguredWith, Bool.and_eq_true, Bool.and_eq_true, sequence_beq_iff, beq_iff_eq,
    beq_iff_eq]
  exact ⟨fun ⟨⟨hsequence, hsource⟩, hcallback⟩ => ⟨hsequence, hsource, hcallback⟩,
    fun h => ⟨⟨h.sequence_eq, h.source_eq⟩, h.callback_eq⟩⟩

/-- A code that equals no code makes every sequence with it a different one. -/
theorem not_hasParts_of_unequal
    {r : Recognizer C}
    {sequence : List C}
    {code : C}
    (hmem : code ∈ sequence)
    (hcode : ∀ other, (other == code) = false)
    (source : SourceId)
    (callback : CallbackRef) :
    ¬ r.HasParts sequence source callback := by
  intro h
  obtain ⟨i, hi, rfl⟩ := List.getElem_of_mem hmem
  have hlt : i < r.sequence.length := h.sequence_eq.length_eq ▸ hi
  have hequal := h.sequence_eq.get hlt hi
  simp [hcode] at hequal

/-- A construction with all its parts gives a recognizer that has them and has done nothing
yet. -/
theorem build_parts
    {sequence : List C}
    (hne : sequence ≠ [])
    (source : SourceId)
    (callback : CallbackRef) :
    (Draft.build
        { sequence := some sequence, source := some source, callback := some callback } :
      Except Error (Recognizer C × List (Event C))) =
      .ok
        ({ sequence, source := some source, callback := some callback },
         [.configured sequence.length]) :=
  configure_fresh rfl hne source callback

/-- A recognizer that is reset is as good as one constructed with its parts. -/
theorem build_reset
    {r : Recognizer C}
    {source : SourceId}
    {callback : CallbackRef}
    (hparts : r.parts? = some (source, callback)) :
    (Draft.build
        { sequence := some r.sequence, source := some source, callback := some callback } :
      Except Error (Recognizer C × List (Event C))) =
      .ok (r.reset, [.configured r.length]) := by
  obtain ⟨hne, hsource, hcallback⟩ := parts?_eq_some_iff.mp hparts
  rw [build_parts hne, reset, hsource, hcallback]
  rfl

end Recognizer

namespace Session

variable [BEq C] {s : Session C}

omit [BEq C] in
theorem replace_refused
    {outcome : Except Recognizer.Error (Recognizer C × List (Recognizer.Event C))}
    {error : Recognizer.Error}
    (h : (s.replace outcome).2.1 = .refused error) :
    s.replace outcome = (s, .refused error, []) := by
  cases outcome with
  | error other =>
      cases h
      rfl
  | ok => cases h

/-- A tick is refused for one reason only, and that is the lack of parts. -/
theorem advance_refused_iff
    (reactions : Nat → Reaction C)
    {error : Recognizer.Error} :
    (s.advance reactions).2.1 = .refused error ↔
      error = .notConfigured ∧ s.recognizer.isConfigured = false := by
  cases hparts : s.recognizer.parts? with
  | none =>
      rw [advance_unconfigured reactions hparts, Recognizer.isConfigured, hparts]
      simp [eq_comm]
  | some parts =>
      obtain ⟨source, callback⟩ := parts
      rw [Recognizer.isConfigured_of_parts? hparts]
      rcases advance_cases reactions hparts with
        ⟨-, -, hreply⟩ | ⟨-, -, -, hreply⟩ | ⟨-, -, -, message, hreply⟩ <;>
        simp [hreply]

/-- A refusal changes neither the recognizer nor a source, and does nothing to the
surroundings. -/
theorem step_refused
    (reactions : Nat → Reaction C)
    {op : Op C}
    {error : Recognizer.Error}
    (h : (s.step reactions op).2.1 = .refused error) :
    s.step reactions op = (s, .refused error, []) := by
  cases op with
  | configure sequence source callback => exact replace_refused h
  | build draft => exact replace_refused h
  | advance =>
      obtain ⟨rfl, hconfigured⟩ := (advance_refused_iff reactions).mp h
      refine advance_unconfigured reactions ?_
      simpa [Recognizer.isConfigured] using hconfigured
  | unconfigure => exact replace_refused h
  | renew => cases h
  | reset => cases h
  | write source change => cases h
  | sample source => cases h

section SetUps

variable (reactions : Nat → Reaction C) {sequence : List C} {source : SourceId} {name : Nat}

theorem step_configure_again
    (hconfigured : s.recognizer.isConfigured = true)
    (hne : sequence ≠ [])
    (hparts : s.recognizer.HasParts sequence source (.shared name)) :
    s.step reactions (.configure sequence source name) = (s, .done, []) := by
  simp only [step]
  rw [Recognizer.configure_again hconfigured hne,
    if_pos (Recognizer.isConfiguredWith_iff.mpr hparts)]
  rfl

theorem step_configure_other
    (hconfigured : s.recognizer.isConfigured = true)
    (hne : sequence ≠ [])
    (hparts : ¬ s.recognizer.HasParts sequence source (.shared name)) :
    s.step reactions (.configure sequence source name) =
      (s, .refused .alreadyConfigured, []) := by
  simp only [step]
  rw [Recognizer.configure_again hconfigured hne,
    if_neg (mt Recognizer.isConfiguredWith_iff.mp hparts)]
  rfl

/-- A recognizer without parts that has forgotten everything is set up like a construction
with the same parts. -/
theorem step_configure_fresh
    (hcoherent : s.recognizer.Coherent)
    (hconfigured : s.recognizer.isConfigured = false) :
    s.step reactions (.configure sequence source name) =
      s.replace
        (Recognizer.Draft.build
          { sequence := some sequence, source := some source,
            callback := some (.shared name) }) := by
  simp only [step]
  rw [hcoherent.eq_new hconfigured]
  rfl

theorem invalidConfiguration_iff :
    (∃ flaw, (s.step reactions (.configure sequence source name)).2.1 =
        .refused (.invalidConfiguration flaw)) ↔
      sequence = [] := by
  constructor
  · rintro ⟨flaw, hflaw⟩
    by_contra hne
    cases hconfigured : s.recognizer.isConfigured with
    | true =>
        by_cases hparts : s.recognizer.HasParts sequence source (.shared name)
        · rw [step_configure_again reactions hconfigured hne hparts] at hflaw
          cases hflaw
        · rw [step_configure_other reactions hconfigured hne hparts] at hflaw
          cases hflaw
    | false =>
        simp only [step] at hflaw
        rw [Recognizer.configure_fresh hconfigured hne] at hflaw
        cases hflaw
  · rintro rfl
    exact ⟨_, rfl⟩

end SetUps

/-- **The lifecycle in every reachable state.**  A set-up is invalid exactly if its sequence
has no code.  Any other is accepted by a recognizer without parts, with the outcome of a
construction of the same parts; a recognizer with parts accepts it without any change if
they are its own, and refuses it otherwise.  A tick is refused exactly if there are no parts.
Every refusal leaves the recognizer and all sources as they were, with whatever progress was
made.  Taking the recognizer down makes it a new one, and resetting a recognizer with parts
makes it one that was just constructed with them. -/
theorem reachable_lifecycle
    (reactions : Nat → Reaction C)
    (sources : SourceId → Source C)
    (ops : List (Op C)) :
    let s := (run reactions { sources } ops).1
    let r := s.recognizer
    (∀ sequence source name,
      let setUp := s.step reactions (.configure sequence source name)
      ((∃ flaw, setUp.2.1 = .refused (.invalidConfiguration flaw)) ↔ sequence = []) ∧
      (sequence ≠ [] → r.isConfigured = false →
        ∃ next events,
          Recognizer.Draft.build
              { sequence := some sequence, source := some source,
                callback := some (.shared name) } = .ok (next, events) ∧
            setUp = ({ s with recognizer := next }, .done, events.map .report)) ∧
      (sequence ≠ [] → r.isConfigured = true →
        (r.HasParts sequence source (.shared name) → setUp = (s, .done, [])) ∧
          (¬ r.HasParts sequence source (.shared name) →
            setUp = (s, .refused .alreadyConfigured, []))) ∧
      ((∃ code ∈ sequence, ∀ other, (other == code) = false) →
        ¬ r.HasParts sequence source (.shared name))) ∧
    (∀ error, (s.step reactions .advance).2.1 = .refused error ↔
      error = .notConfigured ∧ r.isConfigured = false) ∧
    (∀ op error, (s.step reactions op).2.1 = .refused error →
      s.step reactions op = (s, .refused error, [])) ∧
    (s.step reactions .unconfigure).1 = { s with recognizer := .new } ∧
    (r.isConfigured = true →
      ∃ source callback events,
        r.source = some source ∧ r.callback = some callback ∧
        Recognizer.Draft.build
            { sequence := some r.sequence, source := some source,
              callback := some callback } = .ok (r.reset, events) ∧
          (s.step reactions .reset).1 = { s with recognizer := r.reset }) := by
  intro s r
  have hcoherent : r.Coherent := coherent_run reactions (s := { sources }) .of_new ops
  refine ⟨?_, fun error => advance_refused_iff reactions, fun op error => step_refused reactions,
    rfl, ?_⟩
  · intro sequence source name setUp
    refine ⟨invalidConfiguration_iff reactions, ?_, ?_, ?_⟩
    · intro hne hconfigured
      refine ⟨_, _, Recognizer.build_parts hne source (.shared name), ?_⟩
      have hfresh : setUp = s.replace _ := step_configure_fresh reactions hcoherent hconfigured
      rw [hfresh, Recognizer.build_parts hne]
      rfl
    · intro hne hconfigured
      exact ⟨step_configure_again reactions hconfigured hne,
        step_configure_other reactions hconfigured hne⟩
    · rintro ⟨code, hmem, hcode⟩
      exact Recognizer.not_hasParts_of_unequal hmem hcode source (.shared name)
  · intro hconfigured
    obtain ⟨source, callback, hparts⟩ := Recognizer.isConfigured_iff.mp hconfigured
    obtain ⟨-, hsource, hcallback⟩ := Recognizer.parts?_eq_some_iff.mp hparts
    exact ⟨source, callback, _, hsource, hcallback, Recognizer.build_reset hparts, rfl⟩

/-- Not a number is no number, so the set-up that the recognizer has is refused. -/
example :
    (run (fun _ => .observe) { sources := fun _ => .latch (none : Option Float) }
        [.configure [0.0 / 0.0] 0 0, .configure [0.0 / 0.0] 0 0]).2.map Prod.fst =
      [.done, .refused .alreadyConfigured] := by
  rfl

end Session
end ButtonCombo
