import ButtonCombo.Proofs.Leftover

/-!
# The states a recognizer can reach

A recognizer has all its parts or none of them; without them it remembers nothing, and it
is active exactly after a completion.  These facts support each other: setting a recognizer
up does not touch the memory of completions, which is right only because a recognizer
without parts has none.

`Coherent` is the invariant.  Every operation keeps it, also one that is refused and a tick
whose callback fails.  That the progress is at the full length only after such a tick is
`Marked`.

Main facts:

* `Coherent.configure`, `Coherent.build`, `Coherent.consume`, `Coherent.reset`,
  `Coherent.unconfigure`: one lemma for each operation of a recognizer;
* `coherent_step`, `coherent_run`: the invariant along a session;
* `parts_run`: the parts stay until the recognizer is taken down or replaced;
* `reachable_recognizer`: all of it for the states that a session reaches.
-/

namespace ButtonCombo

variable {C : Type}

namespace Recognizer

/-- What holds of a recognizer at any time. -/
structure Coherent (r : Recognizer C) : Prop where
  source_iff : r.sequence = [] ↔ r.source = none
  callback_iff : r.source = none ↔ r.callback = none
  unconfigured : r.sequence = [] → r.progress = 0 ∧ r.active = false ∧ r.completions = 0
  progress_le : r.progress ≤ r.length
  active_iff : r.active = true ↔ 0 < r.completions

namespace Coherent

variable {r : Recognizer C}

theorem sequence_eq_nil_iff
    (h : r.Coherent) :
    r.sequence = [] ↔ r.isConfigured = false := by
  constructor
  · intro hsequence
    simp [isConfigured, parts?, hsequence]
  · intro hconfigured
    by_cases hsequence : r.sequence = []
    · exact hsequence
    · have hsource : r.source ≠ none := mt h.source_iff.mpr hsequence
      have hcallback : r.callback ≠ none := mt h.callback_iff.mpr hsource
      obtain ⟨source, hsource⟩ := Option.ne_none_iff_exists'.mp hsource
      obtain ⟨callback, hcallback⟩ := Option.ne_none_iff_exists'.mp hcallback
      have hparts := parts?_eq_some_iff.mpr ⟨hsequence, hsource, hcallback⟩
      rw [isConfigured_of_parts? hparts] at hconfigured
      cases hconfigured

/-- A coherent recognizer without parts is a new one. -/
theorem eq_new
    (h : r.Coherent)
    (hconfigured : r.isConfigured = false) :
    r = new := by
  have hsequence := h.sequence_eq_nil_iff.mpr hconfigured
  have hsource := h.source_iff.mp hsequence
  have hcallback := h.callback_iff.mp hsource
  obtain ⟨hprogress, hactive, hcompletions⟩ := h.unconfigured hsequence
  cases r
  subst hsequence hsource hcallback hprogress hactive hcompletions
  rfl

theorem of_new :
    (new : Recognizer C).Coherent := by
  constructor <;> simp [new, length]

/-- A recognizer that has just got its parts is coherent. -/
theorem of_parts
    {sequence : List C}
    (hne : sequence ≠ [])
    (source : SourceId)
    (callback : CallbackRef) :
    ({ sequence, source := some source, callback := some callback } : Recognizer C).Coherent := by
  constructor <;> simp [hne]

theorem reset
    (h : r.Coherent) :
    r.reset.Coherent := by
  refine ⟨h.source_iff, h.callback_iff, fun _ => ⟨rfl, rfl, rfl⟩, Nat.zero_le _, ?_⟩
  simp [Recognizer.reset]

theorem unconfigure
    (r : Recognizer C) :
    r.unconfigure.1.Coherent :=
  of_new

/-- Progress within the bounds is all that a configured recognizer asks for. -/
theorem setProgress
    (h : r.Coherent)
    (hconfigured : r.isConfigured = true)
    {progress : Nat}
    (hle : progress ≤ r.length) :
    ({ r with progress } : Recognizer C).Coherent where
  source_iff := h.source_iff
  callback_iff := h.callback_iff
  unconfigured := by
    intro hsequence
    rw [h.sequence_eq_nil_iff.mp hsequence] at hconfigured
    cases hconfigured
  progress_le := hle
  active_iff := h.active_iff

theorem complete
    (h : r.Coherent)
    (hconfigured : r.isConfigured = true) :
    ({ r with progress := r.length, active := true, completions := r.completions + 1 } :
      Recognizer C).Coherent where
  source_iff := h.source_iff
  callback_iff := h.callback_iff
  unconfigured := by
    intro hsequence
    rw [h.sequence_eq_nil_iff.mp hsequence] at hconfigured
    cases hconfigured
  progress_le := Nat.le_refl _
  active_iff := ⟨fun _ => Nat.succ_pos _, fun _ => rfl⟩

variable [BEq C]

theorem configure
    (h : r.Coherent)
    {sequence : List C}
    {source : SourceId}
    {callback : CallbackRef}
    {next : Recognizer C}
    {events : List (Event C)}
    (hconfigure : r.configure sequence source callback = .ok (next, events)) :
    next.Coherent := by
  obtain ⟨hne, ⟨-, -, rfl⟩ | ⟨hfresh, rfl⟩⟩ := configure_eq_ok hconfigure
  · exact h
  · rw [h.eq_new hfresh]
    exact of_parts hne source callback

theorem build
    {draft : Draft C}
    {next : Recognizer C}
    {events : List (Event C)}
    (hbuild : draft.build = .ok (next, events)) :
    next.Coherent := by
  obtain ⟨sequence, source, callback, hne, rfl⟩ := build_eq_ok hbuild
  exact of_parts hne source callback

/-- A sample keeps the invariant, also when a callback is still due. -/
theorem consume
    (h : r.Coherent)
    (hconfigured : r.isConfigured = true)
    (sample : Option C) :
    (r.consume sample).1.Coherent := by
  rcases consume_fields (length_pos_of_isConfigured hconfigured) sample with
    ⟨-, hnext⟩ | ⟨-, progress, hlt, hnext⟩
  · rw [hnext]
    exact h.complete hconfigured
  · rw [hnext]
    exact h.setProgress hconfigured (Nat.le_of_lt hlt)

end Coherent
end Recognizer

namespace Session

open Recognizer (Coherent)

variable [BEq C]

/-- A tick keeps the invariant, whatever the callback does. -/
theorem coherent_advance
    (reactions : Nat → Reaction C)
    {s : Session C}
    (h : s.recognizer.Coherent) :
    (s.advance reactions).1.recognizer.Coherent := by
  cases hparts : s.recognizer.parts? with
  | none =>
      rw [advance_unconfigured reactions hparts]
      exact h
  | some parts =>
      obtain ⟨source, callback⟩ := parts
      have hconfigured := Recognizer.isConfigured_of_parts? hparts
      have hafter := h.consume hconfigured (s.sources source).read.1
      rcases advance_cases reactions hparts with
        ⟨-, hnext, -⟩ | ⟨-, -, hnext, -⟩ | ⟨-, -, hnext, -⟩
      · rw [hnext]
        exact hafter
      · rw [hnext]
        refine hafter.setProgress ?_ (Nat.zero_le _)
        exact Recognizer.isConfigured_of_parts? ((s.recognizer.consume_parts? _).trans hparts)
      · rw [hnext]
        exact hafter

/-- Every operation keeps the invariant. -/
theorem coherent_step
    (reactions : Nat → Reaction C)
    {s : Session C}
    (h : s.recognizer.Coherent)
    (op : Op C) :
    (s.step reactions op).1.recognizer.Coherent := by
  cases op with
  | configure sequence source callback =>
      simp only [step]
      cases hconfigure : s.recognizer.configure sequence source (.shared callback) with
      | error error => exact h
      | ok outcome => exact h.configure hconfigure
  | build draft =>
      simp only [step]
      cases hbuild : draft.build with
      | error error => exact h
      | ok outcome => exact Coherent.build hbuild
  | renew => exact Coherent.of_new
  | advance => exact coherent_advance reactions h
  | reset => exact h.reset
  | unconfigure => exact Coherent.unconfigure s.recognizer
  | write source change => exact h
  | sample source => exact h

theorem coherent_run
    (reactions : Nat → Reaction C)
    {s : Session C}
    (h : s.recognizer.Coherent)
    (ops : List (Op C)) :
    (s.run reactions ops).1.recognizer.Coherent := by
  induction ops generalizing s with
  | nil => exact h
  | cons op ops ih => exact ih (coherent_step reactions h op)

section Parts

/-- The operation takes the recognizer down or replaces it. -/
def Op.discards : Op C → Bool
  | renew | unconfigure => true
  | build draft => draft.build.isOk
  | configure .. | advance | reset | write .. | sample .. => false

/-- A tick keeps the parts, also when the callback fails. -/
theorem parts_advance
    (reactions : Nat → Reaction C)
    (s : Session C) :
    (s.advance reactions).1.recognizer.sequence = s.recognizer.sequence ∧
      (s.advance reactions).1.recognizer.source = s.recognizer.source ∧
      (s.advance reactions).1.recognizer.callback = s.recognizer.callback := by
  cases hparts : s.recognizer.parts? with
  | none =>
      rw [advance_unconfigured reactions hparts]
      exact ⟨rfl, rfl, rfl⟩
  | some parts =>
      obtain ⟨source, callback⟩ := parts
      have hafter := s.recognizer.consume_keeps_parts (s.sources source).read.1
      rcases advance_cases reactions hparts with
        ⟨-, hnext, -⟩ | ⟨-, -, hnext, -⟩ | ⟨-, -, hnext, -⟩
      · rw [hnext]
        exact hafter
      · rw [hnext]
        exact hafter
      · rw [hnext]
        exact hafter

/-- A tick keeps the source and the callback. -/
theorem parts?_advance
    (reactions : Nat → Reaction C)
    (s : Session C) :
    (s.advance reactions).1.recognizer.parts? = s.recognizer.parts? := by
  obtain ⟨hsequence, hsource, hcallback⟩ := parts_advance reactions s
  exact Recognizer.parts?_congr hsequence hsource hcallback

/-- A configured recognizer that is neither taken down nor replaced keeps its parts. -/
theorem parts_step
    (reactions : Nat → Reaction C)
    {s : Session C}
    (hconfigured : s.recognizer.isConfigured = true)
    {op : Op C}
    (hop : op.discards = false) :
    (s.step reactions op).1.recognizer.sequence = s.recognizer.sequence ∧
      (s.step reactions op).1.recognizer.source = s.recognizer.source ∧
      (s.step reactions op).1.recognizer.callback = s.recognizer.callback := by
  cases op with
  | advance => exact parts_advance reactions s
  | configure sequence source callback =>
      have hkeeps : (Op.configure sequence source callback : Op C).setsProgress s = false := by
        simp [Op.setsProgress, hconfigured]
      rw [step_recognizer_of_keeps reactions hkeeps]
      exact ⟨rfl, rfl, rfl⟩
  | build draft =>
      have hkeeps : (Op.build draft : Op C).setsProgress s = false := hop
      rw [step_recognizer_of_keeps reactions hkeeps]
      exact ⟨rfl, rfl, rfl⟩
  | reset => exact ⟨rfl, rfl, rfl⟩
  | write source change => exact ⟨rfl, rfl, rfl⟩
  | sample source => exact ⟨rfl, rfl, rfl⟩
  | renew => cases hop
  | unconfigure => cases hop

theorem parts_run
    (reactions : Nat → Reaction C)
    {s : Session C}
    (hconfigured : s.recognizer.isConfigured = true)
    {ops : List (Op C)}
    (hops : ∀ op ∈ ops, op.discards = false) :
    (s.run reactions ops).1.recognizer.sequence = s.recognizer.sequence ∧
      (s.run reactions ops).1.recognizer.source = s.recognizer.source ∧
      (s.run reactions ops).1.recognizer.callback = s.recognizer.callback := by
  induction ops generalizing s with
  | nil => exact ⟨rfl, rfl, rfl⟩
  | cons op ops ih =>
      obtain ⟨hsequence, hsource, hcallback⟩ :=
        parts_step reactions hconfigured (hops op List.mem_cons_self)
      have hnext : (s.step reactions op).1.recognizer.isConfigured = true := by
        rw [Recognizer.isConfigured, Recognizer.parts?_congr hsequence hsource hcallback]
        exact hconfigured
      obtain ⟨hsequences, hsources, hcallbacks⟩ :=
        ih hnext (fun op hop => hops op (List.mem_cons_of_mem _ hop))
      exact ⟨hsequences.trans hsequence, hsources.trans hsource, hcallbacks.trans hcallback⟩

end Parts

/-- **The reachable states.**  After any run of a new session, failed callbacks and refused
operations included, the recognizer has all parts or none; without parts it remembers
nothing; with parts its progress is within the sequence, at the full length only if the
last operation that set it was a tick whose callback failed, and the next tick finds a
code to compare with; it is active exactly after a completion; and its parts stay until it
is taken down or replaced.  Completions are counted without a bound here; below `2 ^ 64` of
them a counter of 64 bits tells the same (`Recognizer.toNat_completions_toUInt64`). -/
theorem reachable_recognizer
    (reactions : Nat → Reaction C)
    (sources : SourceId → Source C)
    (ops : List (Op C)) :
    let s := (run reactions { sources } ops).1
    let r := s.recognizer
    ((r.sequence = [] ↔ r.source = none) ∧ (r.source = none ↔ r.callback = none)) ∧
    (r.isConfigured = false → r.progress = 0 ∧ r.active = false ∧ r.completions = 0) ∧
    (r.isConfigured = true →
      r.progress ≤ r.length ∧
      (r.progress = r.length → Interrupted (lastSetter reactions { sources } ops)) ∧
      ∃ expected, r.sequence[r.settle.progress]? = some expected) ∧
    ((r.active = true ↔ 0 < r.completions) ∧
      (r.completions < UInt64.size → (r.active = true ↔ 0 < r.completions.toUInt64))) ∧
    (r.isConfigured = true → ∀ more : List (Op C), (∀ op ∈ more, op.discards = false) →
      let t := (s.run reactions more).1.recognizer
      t.sequence = r.sequence ∧ t.source = r.source ∧ t.callback = r.callback) := by
  intro s r
  have hcoherent : r.Coherent := coherent_run reactions (s := { sources }) Coherent.of_new ops
  have hmarked := marked_run reactions sources ops
  refine ⟨⟨hcoherent.source_iff, hcoherent.callback_iff⟩, ?_, ?_,
    ⟨hcoherent.active_iff, ?_⟩, ?_⟩
  · intro hconfigured
    exact hcoherent.unconfigured (hcoherent.sequence_eq_nil_iff.mpr hconfigured)
  · intro hconfigured
    have hlength := Recognizer.length_pos_of_isConfigured hconfigured
    refine ⟨hcoherent.progress_le, ?_, _,
      List.getElem?_eq_getElem (Recognizer.settle_progress_lt hlength)⟩
    intro hfull
    by_cases hinterrupted : Interrupted (lastSetter reactions { sources } ops)
    · exact hinterrupted
    · exfalso
      rcases Recognizer.settle_eq_self_iff.mp (hmarked.settled hinterrupted) with hzero | hlt
      · have hzero : r.progress = 0 := hzero
        omega
      · have hlt : r.progress < r.length := hlt
        omega
  · intro hbound
    rw [hcoherent.active_iff, UInt64.lt_iff_toNat_lt, UInt64.toNat_zero,
      Recognizer.toNat_completions_toUInt64 hbound]
  · intro hconfigured more hmore
    exact parts_run reactions hconfigured hmore

end Session
end ButtonCombo
