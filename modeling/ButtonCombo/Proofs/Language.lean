import ButtonCombo.Proofs.Blocks
import ButtonCombo.Proofs.SessionTick
import Mathlib.Data.List.ReduceOption

/-!
# The language of a recognizer

What a recognizer answers to a stream of samples is a function of the factorization of
the stream into blocks.  The invariant is `Tracks`: at any time the progress is the
length of the remainder of what has been read, and the completions are its full blocks.
One more code keeps it, because a recognizer takes a code just as a factorization does.

Main facts:

* `Tracks.advance_none`, `Tracks.advance_some`: a tick keeps the invariant;
* `Tracks.follow`: so does a run of ticks;
* `advance_factorization`: the answers of a recognizer to any list of samples.
-/

namespace ButtonCombo

open Recognizer (Step)

variable {C : Type} [BEq C] {sequence : List C}

/-- The recognizer stands where the factored stream leaves it, after having been completed
`before` times earlier. -/
structure Tracks
    (before : Nat)
    (r : Recognizer C)
    (f : Factorization sequence) : Prop where
  configured : r.isConfigured = true
  sequence_eq : r.sequence = sequence
  progress_eq : r.progress = f.remainder.length
  completions_eq : r.completions = before + f.completions

namespace Factorization

theorem completions_close
    (f : Factorization sequence)
    (block : Block sequence) :
    (f.close block).completions = f.completions + if block.isFull then 1 else 0 := by
  simp [completions, close, List.countP_append, List.countP_cons]

end Factorization

namespace Tracks

variable {before : Nat} {r : Recognizer C} {f : Factorization sequence}

theorem length_eq
    (h : Tracks before r f) :
    r.length = sequence.length :=
  congrArg List.length h.sequence_eq

/-- No completion is left over. -/
theorem settle_eq
    (h : Tracks before r f) :
    r.settle = r := by
  have hshort := f.short
  rw [Recognizer.settle_eq_self_iff, h.progress_eq, h.length_eq]
  exact Or.inr hshort

/-- The code that the recognizer expects continues the remainder. -/
theorem expected_eq
    (h : Tracks before r f)
    {expected : C}
    (hexpected : r.sequence[r.progress]? = some expected) :
    expected = f.expected := by
  rw [h.sequence_eq, h.progress_eq, List.getElem?_eq_getElem f.short] at hexpected
  exact (Option.some.inj hexpected).symm

/-- A sample leaves the set-up alone, so the invariant is kept if the two counts are. -/
theorem of_consume
    (h : Tracks before r f)
    {next : Recognizer C}
    {g : Factorization sequence}
    (hsequence : next.sequence = r.sequence)
    (hsource : next.source = r.source)
    (hcallback : next.callback = r.callback)
    (hprogress : next.progress = g.remainder.length)
    (hcompletions : next.completions = before + g.completions) :
    Tracks before next g where
  configured := by
    rw [Recognizer.isConfigured, Recognizer.parts?_congr hsequence hsource hcallback]
    exact h.configured
  sequence_eq := hsequence.trans h.sequence_eq
  progress_eq := hprogress
  completions_eq := hcompletions

/-- A tick without input changes nothing. -/
theorem advance_none
    (h : Tracks before r f) :
    r.advance none = .ok (r, .idle, []) := by
  rw [Recognizer.advance_of_isConfigured h.configured, Recognizer.consume_idle, h.settle_eq]
  rfl

/-- A tick with a code is answered with the step of that code, and adds the code to the
stream. -/
theorem advance_some
    (h : Tracks before r f)
    (code : C) :
    ∃ next events,
      r.advance (some code) = .ok (next, f.next code, events) ∧
      Tracks before next (f.push code) := by
  have hlength : 0 < r.length := Recognizer.length_pos_of_isConfigured h.configured
  have hcompletions := h.completions_eq
  obtain ⟨expected, hexpected, hcases⟩ := Recognizer.consume_some hlength code
  rw [h.settle_eq] at hexpected hcases
  rw [h.expected_eq hexpected, h.length_eq, h.progress_eq] at hcases
  rw [Recognizer.advance_of_isConfigured h.configured]
  rcases hcases with ⟨hcode, hconsume⟩ | ⟨hcode, hlt, hconsume⟩ | ⟨hcode, hlast, hconsume⟩
  · have hnext : f.next code = .reset f.remainder.length := by
      simp [Factorization.next, hcode]
    rw [hconsume, hnext, Factorization.push_wrong hcode]
    refine ⟨_, _, rfl, h.of_consume rfl rfl rfl rfl ?_⟩
    rw [Factorization.completions_close]
    exact hcompletions
  · have hnext : f.next code = .matched (f.remainder.length + 1) := by
      simp [Factorization.next, hcode, hlt]
    rw [hconsume, hnext, Factorization.push_expected hcode hlt]
    refine ⟨_, _, rfl, h.of_consume rfl rfl rfl ?_ hcompletions⟩
    simp [Factorization.extend, Recognizer.restart]
  · have hge : ¬ f.remainder.length + 1 < sequence.length := by omega
    have hnext : f.next code = .completed := by
      simp [Factorization.next, hcode, hge]
    rw [hconsume, hnext, Factorization.push_last hcode hge]
    refine ⟨_, _, rfl, h.of_consume rfl rfl rfl rfl ?_⟩
    rw [Factorization.completions_close]
    simp [hcompletions, Factorization.fullBlock, Block.isFull, Nat.add_assoc]

/-- A run of ticks is answered with the steps of its codes, and adds its codes to the
stream. -/
theorem follow
    (h : Tracks before r f)
    (samples : List (Option C)) :
    ∃ last,
      r.follow samples = .ok (last, withIdle samples (f.nexts samples.reduceOption)) ∧
      Tracks before last (samples.reduceOption.foldl Factorization.push f) := by
  induction samples generalizing r f with
  | nil => exact ⟨r, rfl, h⟩
  | cons sample samples ih =>
      cases sample with
      | none =>
          obtain ⟨last, hfollow, hlast⟩ := ih h
          rw [List.reduceOption_cons_of_none]
          exact ⟨last, Recognizer.follow_cons h.advance_none hfollow, hlast⟩
      | some code =>
          obtain ⟨next, events, hadvance, hnext⟩ := h.advance_some code
          obtain ⟨last, hfollow, hlast⟩ := ih hnext
          rw [List.reduceOption_cons_of_some]
          exact ⟨last, Recognizer.follow_cons hadvance hfollow, hlast⟩

/-- A recognizer that has just been set up has read nothing. -/
theorem of_configure
    {r₀ r : Recognizer C}
    (hr₀ : r₀.isConfigured = false)
    (hne : sequence ≠ [])
    {source : SourceId}
    {callback : CallbackRef}
    {events : List (Recognizer.Event C)}
    (hconfigure : r₀.configure sequence source callback = .ok (r, events)) :
    Tracks r₀.completions r (Factorization.empty hne) := by
  rw [Recognizer.configure_fresh hr₀ hne] at hconfigure
  cases hconfigure
  exact
    { configured := Recognizer.isConfigured_of_parts?
        (Recognizer.parts?_eq_some_iff.mpr ⟨hne, rfl, rfl⟩)
      sequence_eq := rfl
      progress_eq := rfl
      completions_eq := rfl }

end Tracks

/-- **The answers of a recognizer.**  Whatever the equality of codes is, the codes among
the samples have exactly one factorization into full and broken blocks and a remainder,
and a recognizer that has just been set up answers its ticks with the steps of that
factorization: a lone one, and also one in a session whose host only listens, with a
callback that returns.  For a count of 64 bits see
`Recognizer.follow_completions_toUInt64`. -/
theorem advance_factorization
    (hne : sequence ≠ [])
    {r₀ : Recognizer C}
    (hr₀ : r₀.isConfigured = false)
    (source : SourceId)
    (callback : CallbackRef)
    (samples : List (Option C)) :
    (∃! f : Factorization sequence, f.codes = samples.reduceOption) ∧
    ∃ r events, r₀.configure sequence source callback = .ok (r, events) ∧
      ∀ f : Factorization sequence, f.codes = samples.reduceOption →
        (∃ last,
          r.follow samples = .ok (last, withIdle samples f.steps) ∧
          last.progress = f.remainder.length ∧
          last.completions = r₀.completions + f.completions) ∧
        ∀ (reactions : Nat → Reaction C) (s : Session C) (ops : List (Session.Op C)),
          s.recognizer = r →
          (reactions callback.name).fails = false →
          (∀ op ∈ ops, op.listens = true) →
          (s.ticks reactions ops).map Prod.fst = samples →
          (s.ticks reactions ops).map Prod.snd = (withIdle samples f.steps).map .stepped := by
  refine ⟨Factorization.existsUnique_factorization hne samples.reduceOption, ?_⟩
  have hconfigure := Recognizer.configure_fresh hr₀ hne source callback
  refine ⟨_, _, hconfigure, ?_⟩
  intro f hf
  have htracks := Tracks.of_configure hr₀ hne hconfigure
  obtain ⟨last, hfollow, hlast⟩ := htracks.follow samples
  rw [← hf, Factorization.foldl_push_codes hne f] at hlast
  rw [← hf, ← Factorization.steps_eq_nexts hne f] at hfollow
  refine ⟨⟨last, hfollow, hlast.progress_eq, hlast.completions_eq⟩, ?_⟩
  intro reactions s ops hs hreturns hops hsamples
  have hparts : s.recognizer.parts? = some (source, callback) := by
    rw [hs]
    exact Recognizer.parts?_eq_some_iff.mpr ⟨hne, rfl, rfl⟩
  obtain ⟨steps, hticks, hreplies⟩ := Session.ticks_eq_follow hreturns hops hparts
  rw [hsamples, hs, hfollow] at hticks
  cases hticks
  exact hreplies

/-- Under an equality for which nine differs from itself, `1 1 9` is never entered, and
after a third `1` the attempt is lost and the next one starts behind it. -/
theorem advance_factorization_irreflexive :
    let _ : BEq Nat := ⟨fun a b => a != 9 && a == b⟩
    ([1, 1, 9] : List Nat) ≠ [] ∧
    (Recognizer.new : Recognizer Nat).isConfigured = false ∧
    ∃ r events last,
      (Recognizer.new : Recognizer Nat).configure [1, 1, 9] 0 (.owned 0) = .ok (r, events) ∧
      r.follow [some 1, none, some 1, some 1, some 1, some 1, some 9] =
        .ok (last, [.matched 1, .idle, .matched 2, .reset 2, .matched 1, .matched 2, .reset 2]) := by
  intro _
  have hne : ([1, 1, 9] : List Nat) ≠ [] := by decide
  have hnew : (Recognizer.new : Recognizer Nat).isConfigured = false := rfl
  refine ⟨hne, hnew, ?_⟩
  obtain ⟨-, r, events, hconfigure, hanswers⟩ :=
    advance_factorization hne hnew 0 (.owned 0)
      [some 1, none, some 1, some 1, some 1, some 1, some 9]
  let f : Factorization ([1, 1, 9] : List Nat) :=
    { blocks :=
        [.broken [1, 1] 1 (by decide) (.cons rfl (.cons rfl .nil)) rfl,
         .broken [1, 1] 9 (by decide) (.cons rfl (.cons rfl .nil)) rfl]
      remainder := []
      short := by decide
      agrees := .nil }
  obtain ⟨⟨last, hfollow, -⟩, -⟩ := hanswers f rfl
  exact ⟨r, events, last, hconfigure, hfollow⟩

end ButtonCombo
