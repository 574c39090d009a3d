import ButtonCombo.Proofs.SourceWrites
import Mathlib.Data.List.Induction

/-!
# The effects of a session

A session is judged by what it does to its surroundings: which sources it reads, which
callbacks it calls and what they see.  The operations before decide in which state the
recognizer and the sources are; what an operation does in that state does not depend on how
the callbacks react.

The callbacks see the completions numbered from one, and the numbers start over with a
recognizer that forgets them, either because it was reset or because it was taken down or
replaced.

Main facts:

* `completions_step`, `completions_run`: the numbers that the callbacks see;
* `length_takenInRun`: each read takes one thing;
* `run_reads_calls`: what is read and called, counted over a whole session.
-/

namespace ButtonCombo

variable {C : Type}

namespace Session

open Source (Served)

/-- All effects of a run, in order. -/
def effectsOf (outcomes : List (Reply C × List (Effect C))) : List (Effect C) :=
  outcomes.flatMap Prod.snd

theorem effectsOf_cons
    (outcome : Reply C × List (Effect C))
    (outcomes : List (Reply C × List (Effect C))) :
    effectsOf (outcome :: outcomes) = outcome.2 ++ effectsOf outcomes :=
  List.flatMap_cons

variable [BEq C]

/-- The operation drops the count of completions. -/
def Op.forgets : Op C → Bool
  | reset => true
  | op => op.discards

section Numbers

/-- A tick counts the call of the callback that is due, and counts nothing else. -/
theorem completions_advance
    (reactions : Nat → Reaction C)
    (s : Session C) :
    ∃ n,
      (calls (s.advance reactions).2.2).map Call.completions =
        List.range' (s.recognizer.completions + 1) n ∧
      (s.advance reactions).1.recognizer.completions = s.recognizer.completions + n := by
  cases hparts : s.recognizer.parts? with
  | none =>
      rw [advance_unconfigured reactions hparts]
      exact ⟨0, rfl, rfl⟩
  | some parts =>
      obtain ⟨source, callback⟩ := parts
      have hlength :=
        Recognizer.length_pos_of_isConfigured (Recognizer.isConfigured_of_parts? hparts)
      have hcount := Recognizer.consume_completions hlength (s.sources source).read.1
      have hnext : (s.advance reactions).1.recognizer.completions =
          (s.recognizer.consume (s.sources source).read.1).1.completions := by
        rcases advance_cases reactions hparts with
          ⟨-, hnext, -⟩ | ⟨-, -, hnext, -⟩ | ⟨-, -, hnext, -⟩ <;> rw [hnext]
      have hcompletes := Recognizer.consume_eq_completed_iff hlength (s.sources source).read.1
      obtain ⟨events, due, heffects, hdue, hsilent⟩ := effects_advance reactions hparts
      have hcalls : calls (s.advance reactions).2.2 = due := by
        rw [heffects]
        exact (calls_append _ _).trans (by simp)
      rw [hnext, hcount, hcalls]
      by_cases hstep : (s.recognizer.consume (s.sources source).read.1).2.1 = .completed
      · rw [hdue (hcompletes.mp hstep), if_pos hstep]
        exact ⟨1, rfl, rfl⟩
      · rw [hsilent (mt hcompletes.mpr hstep), if_neg hstep]
        exact ⟨0, rfl, rfl⟩

/-- A recognizer counts on from where it is unless it forgets. -/
theorem completions_step
    (reactions : Nat → Reaction C)
    (s : Session C)
    {op : Op C}
    (hop : op.forgets = false) :
    ∃ n,
      (calls (s.step reactions op).2.2).map Call.completions =
        List.range' (s.recognizer.completions + 1) n ∧
      (s.step reactions op).1.recognizer.completions = s.recognizer.completions + n := by
  have hsilent : op ≠ .advance → calls (s.step reactions op).2.2 = [] :=
    fun hne => (calls_step reactions s op).2 fun _ hdue => hne hdue.1
  cases op with
  | advance => exact completions_advance reactions s
  | configure sequence source callback =>
      refine ⟨0, by rw [hsilent (by simp)]; rfl, ?_⟩
      simp only [step]
      cases hconfigure : s.recognizer.configure sequence source (.shared callback) with
      | error error => rfl
      | ok outcome =>
          obtain ⟨next, events⟩ := outcome
          obtain ⟨-, ⟨-, -, rfl⟩ | ⟨-, rfl⟩⟩ := Recognizer.configure_eq_ok hconfigure <;> rfl
  | build draft =>
      have hkeeps : (Op.build draft : Op C).setsProgress s = false := hop
      rw [hsilent (by simp), step_recognizer_of_keeps reactions hkeeps]
      exact ⟨0, rfl, rfl⟩
  | write source change => exact ⟨0, rfl, rfl⟩
  | sample source => exact ⟨0, rfl, rfl⟩
  | renew => cases hop
  | reset => cases hop
  | unconfigure => cases hop

theorem completions_run
    (reactions : Nat → Reaction C)
    (s : Session C)
    {ops : List (Op C)}
    (hops : ∀ op ∈ ops, op.forgets = false) :
    ∃ n,
      (calls (effectsOf (s.run reactions ops).2)).map Call.completions =
        List.range' (s.recognizer.completions + 1) n ∧
      (s.run reactions ops).1.recognizer.completions = s.recognizer.completions + n := by
  induction ops generalizing s with
  | nil => exact ⟨0, rfl, rfl⟩
  | cons op ops ih =>
      obtain ⟨n, hcalls, hcount⟩ := completions_step reactions s (hops op List.mem_cons_self)
      obtain ⟨m, hmore, htotal⟩ := ih (s.step reactions op).1
        fun later hlater => hops later (List.mem_cons_of_mem _ hlater)
      refine ⟨n + m, ?_, ?_⟩
      · simp only [run, effectsOf_cons, calls_append, List.map_append]
        rw [hcalls, hmore, hcount, Nat.add_right_comm, List.range'_append_1]
      · simp only [run]
        rw [htotal, hcount, Nat.add_assoc]

/-- Nothing has been counted when the recognizer has just forgotten. -/
theorem completions_of_forgets
    (reactions : Nat → Reaction C)
    (s : Session C)
    {op : Op C}
    (hop : op.forgets = true) :
    (s.step reactions op).1.recognizer.completions = 0 := by
  cases op with
  | build draft =>
      cases hbuild : draft.build with
      | error error =>
          have hok : draft.build.isOk = true := hop
          rw [hbuild] at hok
          cases hok
      | ok outcome =>
          obtain ⟨next, events⟩ := outcome
          obtain ⟨sequence, source, callback, -, rfl⟩ := Recognizer.build_eq_ok hbuild
          simp only [step, hbuild]
          rfl
  | renew => rfl
  | reset => rfl
  | unconfigure => rfl
  | configure => cases hop
  | advance => cases hop
  | write => cases hop
  | sample => cases hop

/-- Nothing has been counted at the beginning and after an operation that forgets. -/
theorem completions_fresh
    (reactions : Nat → Reaction C)
    (sources : SourceId → Source C)
    {ops : List (Op C)}
    (hlast : ∀ op, ops.getLast? = some op → op.forgets = true) :
    (run reactions { sources } ops).1.recognizer.completions = 0 := by
  induction ops using List.reverseRecOn with
  | nil => rfl
  | append_singleton ops op =>
      rw [run_append]
      exact completions_of_forgets reactions _ (hlast op List.getLast?_concat)

end Numbers

section Reads

theorem length_taken
    (reactions : Nat → Reaction C)
    (s : Session C)
    (id : SourceId)
    (op : Op C) :
    (s.taken id op).length = (reads (s.step reactions op).2.2).count id := by
  rw [(reads_step reactions s op).1, taken]
  cases hsource : op.source? s with
  | none => rfl
  | some source => by_cases hid : source = id <;> simp [hid]

/-- Each read of a source takes one thing from it. -/
theorem length_takenInRun
    (reactions : Nat → Reaction C)
    (s : Session C)
    (id : SourceId)
    (ops : List (Op C)) :
    (s.takenInRun reactions id ops).length =
      (reads (effectsOf (s.run reactions ops).2)).count id := by
  induction ops generalizing s with
  | nil => rfl
  | cons op ops ih =>
      simp only [takenInRun, run, effectsOf_cons, reads_append, List.length_append,
        List.count_append]
      rw [length_taken reactions, ih]

/-- A read of a queue finds the first sample that is waiting, if there is one. -/
theorem taken_of_mem_reads
    (reactions : Nat → Reaction C)
    {s : Session C}
    {id : SourceId}
    {waiting : List (Option C)}
    {count : Nat}
    (hqueue : s.sources id = .queue waiting count)
    {op : Op C}
    (hread : id ∈ reads (s.step reactions op).2.2) :
    s.taken id op = [waiting.head?] := by
  rw [(reads_step reactions s op).1, Option.mem_toList] at hread
  rw [taken, if_pos hread, hqueue]
  rfl

theorem advance_not_refused
    (reactions : Nat → Reaction C)
    {s : Session C}
    {source : SourceId}
    {callback : CallbackRef}
    (hparts : s.recognizer.parts? = some (source, callback)) :
    (s.advance reactions).2.1 ≠ .refused .notConfigured := by
  rcases advance_cases reactions hparts with
    ⟨-, -, hreply⟩ | ⟨-, -, -, hreply⟩ | ⟨-, -, -, message, hreply⟩ <;>
    simp [hreply]

/-- A tick of a configured recognizer reads its source and nothing else, before it does
anything else; what it finds decides whether the callback is called. -/
theorem advance_reads_calls
    (reactions : Nat → Reaction C)
    {s : Session C}
    {source : SourceId}
    {callback : CallbackRef}
    (hparts : s.recognizer.parts? = some (source, callback)) :
    ∃ found,
      s.taken source .advance = [found] ∧
      reads (s.advance reactions).2.2 = [source] ∧
      (s.advance reactions).2.2.head? = some (.read source) ∧
      (s.recognizer.Completes found.join →
        calls (s.advance reactions).2.2 = [completedCall s.recognizer callback]) ∧
      (¬ s.recognizer.Completes found.join → calls (s.advance reactions).2.2 = []) := by
  have hsource : (Op.advance : Op C).source? s = some source := by simp [Op.source?, hparts]
  obtain ⟨hreads, hhead⟩ := reads_step reactions s .advance
  obtain ⟨hdue, hsilent⟩ := calls_step reactions s .advance
  refine ⟨(s.sources source).next?, by simp [taken, hsource], ?_, hhead source hsource, ?_, ?_⟩
  · rw [hsource] at hreads
    exact hreads
  · rw [← Source.read_fst]
    exact fun hcompletes => hdue callback ⟨rfl, source, hparts, hcompletes⟩
  · rw [← Source.read_fst]
    intro hnot
    refine hsilent ?_
    rintro other ⟨-, read, hread, hcompletes⟩
    rw [hparts] at hread
    cases hread
    exact hnot hcompletes

end Reads

/-- A callback that writes to its own queue is called again with what it wrote. -/
example :
    let reactions : Nat → Reaction Nat := fun _ => .write 0 (.sample (some 1))
    let sources : SourceId → Source Nat := fun _ => .queue [some 1] 0
    let outcomes :=
      (run reactions { sources } [.configure [1] 0 7, .advance, .advance, .reset, .advance]).2
    (calls (effectsOf outcomes)).map Call.completions = [1, 2, 1] := by
  rfl

end Session
end ButtonCombo
