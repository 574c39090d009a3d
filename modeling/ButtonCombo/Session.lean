import ButtonCombo.Recognizer
import ButtonCombo.Source

/-!
# Sessions

A session is one recognizer among sources and callbacks that outlive it.  The host
sets the recognizer up, takes it down, replaces it, writes to the sources and lets
time pass; each such operation is answered, and everything that the operation does to
its surroundings is recorded in order: which source was read, what was reported, which
callback was called and what it saw.

A callback that is called may do nothing more, may write to a source, or may fail.  A
failure interrupts the tick before the recognizer starts over.

Main facts:

* `advance_unconfigured`: a tick of an unconfigured recognizer does nothing at all;
* `run_append`: a session can be cut anywhere.
-/

namespace ButtonCombo

/-- What a callback does once it has seen the recognizer. -/
inductive Reaction (C : Type)
  | observe
  | fail (message : String)
  | write (source : SourceId) (change : Write C)

/-- What a callback saw when it was called. -/
structure Call where
  callback : Nat
  progress : Nat
  length : Nat
  active : Bool
  completions : Nat
  configured : Bool
  deriving DecidableEq

/-- The call of the callback of that name at this state of the recognizer. -/
def Call.ofRecognizer
    {C : Type}
    (callback : Nat)
    (r : Recognizer C) : Call where
  callback := callback
  progress := r.progress
  length := r.length
  active := r.active
  completions := r.completions
  configured := r.isConfigured

/-- What an operation does to the surroundings of a session. -/
inductive Effect (C : Type)
  | read (source : SourceId)
  | report (event : Recognizer.Event C)
  | call (call : Call)

namespace Effect

variable {C : Type}

/-- The call, if the effect is one. -/
def call? : Effect C → Option Call
  | call c => some c
  | _ => none

/-- The reported event, if the effect is a report. -/
def report? : Effect C → Option (Recognizer.Event C)
  | report event => some event
  | _ => none

end Effect

/-- A recognizer and the sources around it. -/
structure Session (C : Type) where
  recognizer : Recognizer C := .new
  sources : SourceId → Source C

namespace Session

/-- What a host can do in a session. -/
inductive Op (C : Type)
  | configure (sequence : List C) (source : SourceId) (callback : Nat)
  | build (draft : Recognizer.Draft C)
  | renew
  | advance
  | reset
  | unconfigure
  | write (source : SourceId) (change : Write C)
  | sample (source : SourceId)

/-- What an operation answers. -/
inductive Reply (C : Type)
  | done
  | refused (error : Recognizer.Error)
  | stepped (step : Recognizer.Step)
  | interrupted (message : String)
  | sampled (sample : Option C)

variable {C : Type}

/-- Exchange one source. -/
def putSource
    (s : Session C)
    (id : SourceId)
    (source : Source C) : Session C :=
  { s with sources := fun k => if k = id then source else s.sources k }

/-- Write to one source. -/
def writeSource
    (s : Session C)
    (id : SourceId)
    (change : Write C) : Session C :=
  s.putSource id ((s.sources id).write change)

/-- Call the callback on the completed recognizer; unless it fails, the recognizer
starts over. -/
def callBack
    (reactions : Nat → Reaction C)
    (s : Session C)
    (callback : CallbackRef) :
    Session C × Reply C × List (Effect C) :=
  let call := [Effect.call (.ofRecognizer callback.name s.recognizer)]
  let restarted : Session C := { s with recognizer := s.recognizer.restart .completed }
  match reactions callback.name with
  | .observe => (restarted, .stepped .completed, call)
  | .write source change => (restarted.writeSource source change, .stepped .completed, call)
  | .fail message => (s, .interrupted message, call)

section Ticks

variable [BEq C]

/-- Let one tick pass: read the source, take the sample, call the callback if the
sequence is complete. -/
def advance
    (reactions : Nat → Reaction C)
    (s : Session C) :
    Session C × Reply C × List (Effect C) :=
  match s.recognizer.parts? with
  | none => (s, .refused .notConfigured, [])
  | some (source, callback) =>
      let (sample, left) := (s.sources source).read
      let (next, step, events) := s.recognizer.consume sample
      let after := { s with recognizer := next }.putSource source left
      let effects := .read source :: events.map .report
      if step = .completed then
        let (called, reply, more) := after.callBack reactions callback
        (called, reply, effects ++ more)
      else
        (after, .stepped step, effects)

/-- The recognizer that an operation leaves behind, or its refusal. -/
def replace
    (s : Session C) :
    Except Recognizer.Error (Recognizer C × List (Recognizer.Event C)) →
    Session C × Reply C × List (Effect C)
  | .ok (r, events) => ({ s with recognizer := r }, .done, events.map .report)
  | .error error => (s, .refused error, [])

/-- One operation of the host. -/
def step
    (reactions : Nat → Reaction C)
    (s : Session C) :
    Op C → Session C × Reply C × List (Effect C)
  | .configure sequence source callback =>
      s.replace (s.recognizer.configure sequence source (.shared callback))
  | .build draft => s.replace draft.build
  | .renew => ({ s with recognizer := .new }, .done, [])
  | .advance => s.advance reactions
  | .reset => ({ s with recognizer := s.recognizer.reset }, .done, [])
  | .unconfigure => s.replace (.ok s.recognizer.unconfigure)
  | .write source change => (s.writeSource source change, .done, [])
  | .sample source =>
      let (sample, left) := (s.sources source).read
      (s.putSource source left, .sampled sample, [.read source])

/-- A list of operations: the session in the end, and the answer and the effects of
each operation. -/
def run
    (reactions : Nat → Reaction C)
    (s : Session C) :
    List (Op C) → Session C × List (Reply C × List (Effect C))
  | [] => (s, [])
  | op :: ops =>
      let (next, reply, effects) := s.step reactions op
      let (last, outcomes) := run reactions next ops
      (last, (reply, effects) :: outcomes)

/-- Write each sample to the source and let a tick pass after it. -/
def feed
    (reactions : Nat → Reaction C)
    (s : Session C)
    (source : SourceId) :
    List (Option C) → Session C × List (Reply C × List (Effect C))
  | [] => (s, [])
  | sample :: samples =>
      let (next, reply, effects) := (s.writeSource source (.sample sample)).advance reactions
      let (last, outcomes) := feed reactions next source samples
      (last, (reply, effects) :: outcomes)

/-- A tick of an unconfigured recognizer reads nothing, calls nothing and changes
nothing. -/
theorem advance_unconfigured
    (reactions : Nat → Reaction C)
    {s : Session C}
    (h : s.recognizer.parts? = none) :
    s.advance reactions = (s, .refused .notConfigured, []) := by
  simp [advance, h]

@[simp] theorem run_nil
    (reactions : Nat → Reaction C)
    (s : Session C) :
    s.run reactions [] = (s, []) := by
  rfl

/-- A session can be cut anywhere. -/
theorem run_append
    (reactions : Nat → Reaction C)
    (s : Session C)
    (ops more : List (Op C)) :
    s.run reactions (ops ++ more) =
      (((s.run reactions ops).1.run reactions more).1,
       (s.run reactions ops).2 ++ ((s.run reactions ops).1.run reactions more).2) := by
  induction ops generalizing s with
  | nil => rfl
  | cons op ops ih => simp [run, ih]

end Ticks
end Session
end ButtonCombo
