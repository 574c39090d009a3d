import ButtonCombo.Proofs.ReadsAndCalls
import Mathlib.Data.List.ReduceOption

/-!
# Reads and writes of a source

A source changes when it is read and when it is written to, by the host or by a callback.
A callback that writes does so when its tick is over: it comes to the same as a write of
the host after the tick.  So an operation reads a source first, if it reads it at all, and
writes to it afterwards.

A queue therefore hands out what was queued in the order in which it was queued, one
sample for each read.

Main facts:

* `Served`: how a queue keeps its order;
* `step_quiet`: the writes of a callback, put off until the tick is over;
* `sources_step`: what an operation makes of a source;
* `queue_step`, `queue_run`: what an operation and a run make of a queue.
-/

namespace ButtonCombo

variable {C : Type}

/-- The write of a callback that writes. -/
def Reaction.write? : Reaction C → Option (SourceId × Write C)
  | write source change => some (source, change)
  | observe | fail _ => none

/-- The reaction of a callback that leaves the sources alone. -/
def Reaction.quiet : Reaction C → Reaction C
  | write .. | observe => observe
  | fail message => fail message

/-- The sample that a write brings to a queue, if it brings one. -/
def Write.sample? : Write C → Option (Option C)
  | .sample value => some value
  | .hold _ | .press _ | .clear => none

/-- The write drops what a queue holds. -/
def Write.clears : Write C → Bool
  | .clear => true
  | .sample _ | .hold _ | .press _ => false

namespace Source

/-- What a read of the source finds; an empty queue has nothing to be found. -/
def next? : Source C → Option (Option C)
  | latch sample => some sample
  | queue waiting _ => waiting.head?
  | pad p coding => some (p.sample.map coding.code)

/-- Where a read finds nothing, it hands out no input. -/
theorem read_fst
    (source : Source C) :
    source.read.1 = source.next?.join := by
  cases source with
  | latch sample => rfl
  | queue waiting reads => cases waiting <;> rfl
  | pad p coding => rfl

/-- A queue that held the samples `waiting` still holds `left` after reads that found
`taken` and after some writes.  The samples keep their order, and none of them is lost
unless a write clears the queue. -/
structure Served
    (waiting left : List (Option C))
    (taken : List (Option (Option C)))
    (changes : List (Write C)) : Prop where
  in_order : (taken.reduceOption ++ left).Sublist (waiting ++ changes.filterMap Write.sample?)
  complete :
    (∀ change ∈ changes, change.clears = false) →
      taken.reduceOption ++ left = waiting ++ changes.filterMap Write.sample?

namespace Served

/-- Nothing is read and nothing is written. -/
theorem refl
    (waiting : List (Option C)) :
    Served waiting waiting [] [] :=
  ⟨by simp, fun _ => by simp⟩

theorem trans
    {waiting middle left : List (Option C)}
    {taken more : List (Option (Option C))}
    {changes later : List (Write C)}
    (first : Served waiting middle taken changes)
    (second : Served middle left more later) :
    Served waiting left (taken ++ more) (changes ++ later) := by
  constructor
  · -- what is left after the first part is in front of what is written in the second
    rw [List.reduceOption_append, List.filterMap_append, List.append_assoc]
    refine (second.in_order.append_left _).trans ?_
    rw [← List.append_assoc, ← List.append_assoc]
    exact first.in_order.append_right _
  · intro hkept
    have hchanges : ∀ change ∈ changes, change.clears = false :=
      fun change h => hkept change (List.mem_append_left _ h)
    have hlater : ∀ change ∈ later, change.clears = false :=
      fun change h => hkept change (List.mem_append_right _ h)
    rw [List.reduceOption_append, List.filterMap_append, List.append_assoc,
      second.complete hlater, ← List.append_assoc, first.complete hchanges, List.append_assoc]

end Served

/-- A write to a queue appends its sample, or clears the queue, or does nothing. -/
theorem write_queue
    (waiting : List (Option C))
    (count : Nat)
    (change : Write C) :
    ∃ left,
      (queue waiting count).write change = queue left count ∧ Served waiting left [] [change] := by
  cases change with
  | sample sample =>
      exact ⟨waiting ++ [sample], rfl, by simp [Write.sample?], fun _ => by simp [Write.sample?]⟩
  | hold held => exact ⟨waiting, rfl, by simp [Write.sample?], fun _ => by simp [Write.sample?]⟩
  | press pressed => exact ⟨waiting, rfl, by simp [Write.sample?], fun _ => by simp [Write.sample?]⟩
  | clear => exact ⟨[], rfl, by simp, by simp [Write.clears]⟩

theorem foldl_write_queue
    (waiting : List (Option C))
    (count : Nat)
    (changes : List (Write C)) :
    ∃ left,
      changes.foldl write (queue waiting count) = queue left count ∧
      Served waiting left [] changes := by
  induction changes generalizing waiting with
  | nil => exact ⟨waiting, rfl, .refl waiting⟩
  | cons change changes ih =>
      obtain ⟨middle, hwrite, hfirst⟩ := write_queue waiting count change
      obtain ⟨left, hwrites, hrest⟩ := ih middle
      exact ⟨left, by rw [List.foldl_cons, hwrite, hwrites], hfirst.trans hrest⟩

end Source

namespace Session

open Source (Served foldl_write_queue next?)

/-- The write of the host that an operation is. -/
def Op.write? : Op C → Option (SourceId × Write C)
  | write source change => some (source, change)
  | _ => none

/-- The writes of the callbacks that were called. -/
def callbackWrites
    (reactions : Nat → Reaction C)
    (effects : List (Effect C)) : List (SourceId × Write C) :=
  (calls effects).filterMap fun call => (reactions call.callback).write?

/-- The session after writes to its sources. -/
def writeAll
    (s : Session C)
    (writes : List (SourceId × Write C)) : Session C :=
  writes.foldl (fun s w => s.writeSource w.1 w.2) s

section Writes

/-- A callback is called the same way whether it writes or not, and a write of its own is
the last thing that happens. -/
theorem callBack_quiet
    (reactions : Nat → Reaction C)
    (s : Session C)
    (callback : CallbackRef) :
    (s.callBack reactions callback).2 =
        (s.callBack (fun name => (reactions name).quiet) callback).2 ∧
      (s.callBack reactions callback).1 =
        (s.callBack (fun name => (reactions name).quiet) callback).1.writeAll
          (reactions callback.name).write?.toList := by
  cases hreaction : reactions callback.name with
  | observe => simp [callBack, hreaction, Reaction.quiet, Reaction.write?, writeAll]
  | fail message => simp [callBack, hreaction, Reaction.quiet, Reaction.write?, writeAll]
  | write source change => simp [callBack, hreaction, Reaction.quiet, Reaction.write?, writeAll]

theorem callbackWrites_of_calls
    {reactions : Nat → Reaction C}
    {effects : List (Effect C)}
    {r : Recognizer C}
    {callback : CallbackRef}
    (h : calls effects = [completedCall r callback]) :
    callbackWrites reactions effects = (reactions callback.name).write?.toList := by
  rw [callbackWrites, h]
  cases hwrite : (reactions callback.name).write? <;> simp [completedCall, hwrite]

theorem callbackWrites_of_no_calls
    {reactions : Nat → Reaction C}
    {effects : List (Effect C)}
    (h : calls effects = []) :
    callbackWrites reactions effects = [] := by
  rw [callbackWrites, h]
  rfl

variable [BEq C]

/-- The writes of a callback do not touch the operation that it is called in: they come to
the same as writes of the host when the operation is over. -/
theorem step_quiet
    (reactions : Nat → Reaction C)
    (s : Session C)
    (op : Op C) :
    (s.step reactions op).2 = (s.step (fun name => (reactions name).quiet) op).2 ∧
      (s.step reactions op).1 =
        (s.step (fun name => (reactions name).quiet) op).1.writeAll
          (callbackWrites reactions (s.step reactions op).2.2) := by
  have hsilent : (∀ callback, ¬ op.Due s callback) →
      callbackWrites reactions (s.step reactions op).2.2 = [] :=
    fun h => callbackWrites_of_no_calls ((calls_step reactions s op).2 h)
  have hother : op ≠ .advance → callbackWrites reactions (s.step reactions op).2.2 = [] :=
    fun hne => hsilent fun _ hdue => hne hdue.1
  cases op with
  | advance =>
      cases hparts : s.recognizer.parts? with
      | none =>
          simp only [step, advance_unconfigured _ hparts]
          exact ⟨trivial, rfl⟩
      | some parts =>
          obtain ⟨source, callback⟩ := parts
          have hlength :=
            Recognizer.length_pos_of_isConfigured (Recognizer.isConfigured_of_parts? hparts)
          have hcompletes :=
            Recognizer.consume_eq_completed_iff hlength (s.sources source).read.1
          by_cases hstep : (s.recognizer.consume (s.sources source).read.1).2.1 = .completed
          · have hcalls := (calls_step reactions s .advance).1 callback
              ⟨rfl, source, hparts, hcompletes.mp hstep⟩
            obtain ⟨hsame, hwrites⟩ := callBack_quiet reactions (s.afterSample source) callback
            rw [callbackWrites_of_calls hcalls]
            simp only [step, advance_of_completed hparts hstep, hsame]
            exact ⟨trivial, hwrites⟩
          · have hnone : ∀ other, ¬ (Op.advance : Op C).Due s other := by
              rintro other ⟨-, read, hdue, hdone⟩
              rw [hparts] at hdue
              cases hdue
              exact hstep (hcompletes.mpr hdone)
            rw [hsilent hnone]
            simp only [step, advance_of_ne_completed hparts hstep]
            exact ⟨trivial, rfl⟩
  | configure => exact ⟨rfl, by rw [hother (by simp)]; rfl⟩
  | build => exact ⟨rfl, by rw [hother (by simp)]; rfl⟩
  | renew => exact ⟨rfl, rfl⟩
  | reset => exact ⟨rfl, rfl⟩
  | unconfigure => exact ⟨rfl, by rw [hother (by simp)]; rfl⟩
  | write => exact ⟨rfl, rfl⟩
  | sample => exact ⟨rfl, rfl⟩

end Writes

section Sources

/-- The writes to one source. -/
def writesTo
    (id : SourceId)
    (writes : List (SourceId × Write C)) : List (Write C) :=
  writes.filterMap fun w => if w.1 = id then some w.2 else none

theorem writeAll_sources
    (s : Session C)
    (writes : List (SourceId × Write C))
    (id : SourceId) :
    (s.writeAll writes).sources id = (writesTo id writes).foldl Source.write (s.sources id) := by
  induction writes generalizing s with
  | nil => rfl
  | cons w writes ih =>
      obtain ⟨source, change⟩ := w
      have hrest : (s.writeAll ((source, change) :: writes)).sources id =
          ((s.writeSource source change).writeAll writes).sources id := rfl
      rw [hrest, ih]
      by_cases hid : source = id
      · simp [writesTo, writeSource, putSource, hid]
      · simp [writesTo, writeSource, putSource, hid, Ne.symm hid]

theorem callBack_quiet_sources
    (reactions : Nat → Reaction C)
    (s : Session C)
    (callback : CallbackRef) :
    (s.callBack (fun name => (reactions name).quiet) callback).1.sources = s.sources := by
  cases hreaction : reactions callback.name <;> simp [callBack, hreaction, Reaction.quiet]

theorem replace_sources
    (s : Session C)
    (outcome : Except Recognizer.Error (Recognizer C × List (Recognizer.Event C))) :
    (s.replace outcome).1.sources = s.sources := by
  cases outcome <;> rfl

variable [BEq C]

/-- Without the writes of callbacks an operation makes of a source what its own read and
then its own write make of it. -/
theorem sources_step_quiet
    (reactions : Nat → Reaction C)
    (s : Session C)
    (op : Op C)
    (id : SourceId) :
    (s.step (fun name => (reactions name).quiet) op).1.sources id =
      (writesTo id op.write?.toList).foldl Source.write
        (if op.source? s = some id then (s.sources id).read.2 else s.sources id) := by
  cases op with
  | advance =>
      cases hparts : s.recognizer.parts? with
      | none => simp [step, advance_unconfigured _ hparts, Op.source?, hparts, Op.write?, writesTo]
      | some parts =>
          obtain ⟨source, callback⟩ := parts
          have hafter : (s.step (fun name => (reactions name).quiet) .advance).1.sources =
              (s.afterSample source).sources := by
            by_cases hstep : (s.recognizer.consume (s.sources source).read.1).2.1 = .completed
            · simp only [step, advance_of_completed hparts hstep]
              exact callBack_quiet_sources reactions (s.afterSample source) callback
            · simp only [step, advance_of_ne_completed hparts hstep]
          rw [hafter]
          by_cases hid : source = id
          · simp [afterSample, putSource, Op.source?, hparts, Op.write?, writesTo, hid]
          · simp [afterSample, putSource, Op.source?, hparts, Op.write?, writesTo, hid, Ne.symm hid]
  | write source change =>
      exact writeAll_sources s [(source, change)] id
  | sample source =>
      by_cases hid : source = id
      · simp [step, putSource, Op.source?, Op.write?, writesTo, hid]
      · simp [step, putSource, Op.source?, Op.write?, writesTo, hid, Ne.symm hid]
  | configure => exact congrFun (replace_sources s _) id
  | build => exact congrFun (replace_sources s _) id
  | unconfigure => exact congrFun (replace_sources s _) id
  | renew => rfl
  | reset => rfl

/-- All writes of an operation: those of the host, then those of the callbacks. -/
def writes
    (reactions : Nat → Reaction C)
    (s : Session C)
    (op : Op C) : List (SourceId × Write C) :=
  op.write?.toList ++ callbackWrites reactions (s.step reactions op).2.2

/-- An operation reads a source first, if it reads it at all, and writes to it
afterwards. -/
theorem sources_step
    (reactions : Nat → Reaction C)
    (s : Session C)
    (op : Op C)
    (id : SourceId) :
    (s.step reactions op).1.sources id =
      (writesTo id (writes reactions s op)).foldl Source.write
        (if op.source? s = some id then (s.sources id).read.2 else s.sources id) := by
  rw [(step_quiet reactions s op).2, writeAll_sources, sources_step_quiet, writes, writesTo,
    writesTo, writesTo, List.filterMap_append, List.foldl_append]

end Sources

section Queues

variable
  {s : Session C}
  {id : SourceId}
  {waiting : List (Option C)}
  {count : Nat}

/-- What an operation finds in a source if it reads it. -/
def taken
    (s : Session C)
    (id : SourceId)
    (op : Op C) : List (Option (Option C)) :=
  if op.source? s = some id then [(s.sources id).next?] else []

/-- A read of a queue takes the first sample, if there is one, and leaves the others. -/
theorem read_queue
    (hqueue : s.sources id = .queue waiting count)
    (op : Op C) :
    ∃ rest,
      (if op.source? s = some id then (s.sources id).read.2 else s.sources id) =
        .queue rest (count + (s.taken id op).length) ∧
      Served waiting rest (s.taken id op) [] := by
  by_cases hread : op.source? s = some id
  · rw [taken, if_pos hread, if_pos hread, hqueue]
    cases waiting with
    | nil => exact ⟨[], rfl, by simp [next?], fun _ => rfl⟩
    | cons sample rest => exact ⟨rest, rfl, by simp [next?], fun _ => by simp [next?]⟩
  · rw [taken, if_neg hread, if_neg hread, hqueue]
    exact ⟨waiting, rfl, .refl waiting⟩

variable [BEq C]

/-- What the reads of a source find in a run, one after the other. -/
def takenInRun
    (reactions : Nat → Reaction C)
    (s : Session C)
    (id : SourceId) : List (Op C) → List (Option (Option C))
  | [] => []
  | op :: ops => s.taken id op ++ (s.step reactions op).1.takenInRun reactions id ops

/-- What is written to a source in a run, one after the other. -/
def writtenInRun
    (reactions : Nat → Reaction C)
    (s : Session C)
    (id : SourceId) : List (Op C) → List (Write C)
  | [] => []
  | op :: ops =>
      writesTo id (writes reactions s op) ++ (s.step reactions op).1.writtenInRun reactions id ops

/-- What an operation takes from a queue comes from its front, and what it writes goes
to its end. -/
theorem queue_step
    (reactions : Nat → Reaction C)
    (hqueue : s.sources id = .queue waiting count)
    (op : Op C) :
    ∃ left,
      (s.step reactions op).1.sources id = .queue left (count + (s.taken id op).length) ∧
      Served waiting left (s.taken id op) (writesTo id (writes reactions s op)) := by
  obtain ⟨rest, hread, hserved⟩ := read_queue hqueue op
  obtain ⟨left, hwrites, hwritten⟩ := foldl_write_queue rest
    (count + (s.taken id op).length) (writesTo id (writes reactions s op))
  refine ⟨left, by rw [sources_step, hread, hwrites], ?_⟩
  have hboth := hserved.trans hwritten
  rwa [List.append_nil, List.nil_append] at hboth

/-- A queue hands out what was waiting in it and then what is written to it, in this
order and once for each read; only a write that clears it makes it skip samples. -/
theorem queue_run
    (reactions : Nat → Reaction C)
    (hqueue : s.sources id = .queue waiting count)
    (ops : List (Op C)) :
    ∃ left,
      (s.run reactions ops).1.sources id =
        .queue left (count + (s.takenInRun reactions id ops).length) ∧
      Served waiting left (s.takenInRun reactions id ops) (s.writtenInRun reactions id ops) := by
  induction ops generalizing s waiting count with
  | nil => exact ⟨waiting, hqueue, .refl waiting⟩
  | cons op ops ih =>
      obtain ⟨middle, hstep, hfirst⟩ := queue_step reactions hqueue op
      obtain ⟨left, hrun, hrest⟩ := ih hstep
      refine ⟨left, ?_, hfirst.trans hrest⟩
      simp only [run, takenInRun, List.length_append]
      rw [hrun, Nat.add_assoc]

end Queues
end Session
end ButtonCombo
