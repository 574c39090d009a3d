/-!
# The sequence recognizer

A recognizer watches a stream of samples for one fixed sequence of codes.  It takes
one sample per tick:

* no input keeps the progress, so buttons may be released between presses;
* the expected code moves the progress one code forward;
* any other code drops the progress back to zero, and is not itself taken as the
  first code of a new attempt.

When the last code matches, the completion callback runs; it sees the progress at
the full length.  Once the callback has returned the recognizer starts over.  A
callback that does not return leaves the full progress behind, and the next tick
begins by dropping it.

Codes are compared by the equality of their type.  Nothing is assumed about it: a
code that does not equal itself is never matched.  A source and a callback are known
by their identity.

Main facts:

* `consume_idle`, `consume_wrong`, `consume_expected`, `consume_last`: the four
  outcomes of a tick, one equation each;
* `configure_empty`, `configure_fresh`, `configure_again`: the outcomes of a set-up.
-/

namespace ButtonCombo

/-- The identity of a source. -/
abbrev SourceId : Type :=
  Nat

/-- The identity of a callback.  A shared callback can be named again later; one that
was handed over to a recognizer under construction belongs to that recognizer alone. -/
inductive CallbackRef
  | shared (name : Nat)
  | owned (name : Nat)
  deriving DecidableEq

namespace CallbackRef

/-- The callback that runs, whoever owns it. -/
def name : CallbackRef → Nat
  | shared name => name
  | owned name => name

end CallbackRef

/-- A recognizer for sequences of codes.  Completions are counted without a bound. -/
structure Recognizer (C : Type) where
  sequence : List C := []
  progress : Nat := 0
  source : Option SourceId := none
  callback : Option CallbackRef := none
  active : Bool := false
  completions : Nat := 0

namespace Recognizer

/-- What is wrong with the parts of a set-up. -/
inductive Flaw
  | emptySequence
  | missingSequence
  | missingSource
  | missingCallback
  deriving DecidableEq

/-- The flaw in words. -/
def Flaw.message : Flaw → String
  | emptySequence => "input sequence is empty"
  | missingSequence => "missing input sequence"
  | missingSource => "missing input source"
  | missingCallback => "missing completion callback"

/-- Why a recognizer refuses. -/
inductive Error
  | invalidConfiguration (flaw : Flaw)
  | notConfigured
  | alreadyConfigured
  deriving DecidableEq

/-- The refusal in words. -/
def Error.message : Error → String
  | invalidConfiguration flaw => "Invalid configuration: " ++ flaw.message
  | notConfigured => "Recognizer is not configured"
  | alreadyConfigured =>
      "Recognizer is already configured with a different sequence or capabilities"

/-- The recognizer was driven in the wrong order. -/
def Error.isLifecycle : Error → Bool
  | invalidConfiguration _ => false
  | notConfigured | alreadyConfigured => true

/-- The outcome of a tick. -/
inductive Step
  | idle
  | matched (progress : Nat)
  | reset (lost : Nat)
  | completed
  deriving DecidableEq

/-- What a recognizer reports while it works. -/
inductive Event (C : Type)
  | configured (length : Nat)
  | unconfigured
  | matched (progress length : Nat)
  | broken (sample expected : C) (lost : Nat)
  | completed (completions : Nat)

variable {C : Type}

/-- A recognizer that is not configured. -/
def new : Recognizer C :=
  {}

/-- The number of codes in the sequence. -/
def length (r : Recognizer C) : Nat :=
  r.sequence.length

/-- The source and the callback, if no part is missing. -/
def parts? (r : Recognizer C) : Option (SourceId × CallbackRef) :=
  match r.sequence, r.source, r.callback with
  | _ :: _, some source, some callback => some (source, callback)
  | _, _, _ => none

/-- The recognizer has all its parts. -/
def isConfigured (r : Recognizer C) : Bool :=
  r.parts?.isSome

/-- The recognizer has exactly these parts. -/
def isConfiguredWith
    [BEq C]
    (r : Recognizer C)
    (sequence : List C)
    (source : SourceId)
    (callback : CallbackRef) : Bool :=
  r.sequence == sequence && r.source == some source && r.callback == some callback

/-- Set up the sequence, the source and the callback.  The same set-up again changes
nothing, and a different one is refused. -/
def configure
    [BEq C]
    (r : Recognizer C)
    (sequence : List C)
    (source : SourceId)
    (callback : CallbackRef) :
    Except Error (Recognizer C × List (Event C)) :=
  if sequence.isEmpty then
    .error (.invalidConfiguration .emptySequence)
  else if r.isConfigured then
    if r.isConfiguredWith sequence source callback then .ok (r, [])
    else .error .alreadyConfigured
  else
    .ok
      ({ r with sequence, source := some source, callback := some callback, progress := 0 },
       [.configured sequence.length])

/-- Drop the progress and the memory of completions; keep the parts. -/
def reset (r : Recognizer C) : Recognizer C :=
  { r with progress := 0, active := false, completions := 0 }

/-- Drop the parts as well. -/
def unconfigure (r : Recognizer C) : Recognizer C × List (Event C) :=
  ({ r with sequence := [], source := none, callback := none }.reset, [.unconfigured])

/-- Drop the progress of a completed attempt whose callback did not return. -/
def settle (r : Recognizer C) : Recognizer C :=
  if r.length ≤ r.progress then { r with progress := 0 } else r

/-- Take one sample, up to the moment when the callback is due. -/
def consume
    [BEq C]
    (r : Recognizer C)
    (sample : Option C) :
    Recognizer C × Step × List (Event C) :=
  let r := r.settle
  match sample, r.sequence[r.progress]? with
  | some code, some expected =>
      if code == expected then
        if r.progress + 1 < r.length then
          ({ r with progress := r.progress + 1 },
           .matched (r.progress + 1),
           [.matched (r.progress + 1) r.length])
        else
          ({ r with
              progress := r.progress + 1
              active := true
              completions := r.completions + 1 },
           .completed,
           [.completed (r.completions + 1)])
      else
        ({ r with progress := 0 },
         .reset r.progress,
         if 0 < r.progress then [.broken code expected r.progress] else [])
  | _, _ => (r, .idle, [])

/-- What is left of a tick when the callback, if one was due, has returned. -/
def restart
    (r : Recognizer C)
    (step : Step) : Recognizer C :=
  if step = .completed then { r with progress := 0 } else r

/-- Take one sample, with a callback that returns. -/
def advance
    [BEq C]
    (r : Recognizer C)
    (sample : Option C) :
    Except Error (Recognizer C × Step × List (Event C)) :=
  if r.isConfigured then
    let (next, step, events) := r.consume sample
    .ok (next.restart step, step, events)
  else
    .error .notConfigured

/-- The parts of a recognizer under construction. -/
structure Draft (C : Type) where
  sequence : Option (List C) := none
  source : Option SourceId := none
  callback : Option CallbackRef := none

/-- A recognizer with the drafted parts; the first missing part is reported. -/
def Draft.build
    [BEq C]
    (draft : Draft C) :
    Except Error (Recognizer C × List (Event C)) :=
  match draft.sequence, draft.source, draft.callback with
  | none, _, _ => .error (.invalidConfiguration .missingSequence)
  | some _, none, _ => .error (.invalidConfiguration .missingSource)
  | some _, some _, none => .error (.invalidConfiguration .missingCallback)
  | some sequence, some source, some callback => new.configure sequence source callback

@[simp] theorem settle_of_lt
    {r : Recognizer C}
    (h : r.progress < r.length) :
    r.settle = r := by
  simp [settle, Nat.not_le.mpr h]

/-- A code is expected exactly as long as the progress is below the full length. -/
theorem progress_lt_of_expected
    {r : Recognizer C}
    {expected : C}
    (h : r.sequence[r.progress]? = some expected) :
    r.progress < r.length :=
  (List.getElem?_eq_some_iff.mp h).1

section Outcomes

variable [BEq C]

/-- No input keeps everything but a leftover completion. -/
@[simp] theorem consume_idle
    (r : Recognizer C) :
    r.consume none = (r.settle, .idle, []) := by
  rfl

/-- A wrong code loses the progress. -/
theorem consume_wrong
    {r : Recognizer C}
    {code expected : C}
    (h : r.sequence[r.progress]? = some expected)
    (hcode : (code == expected) = false) :
    r.consume (some code) =
      ({ r with progress := 0 },
       .reset r.progress,
       if 0 < r.progress then [.broken code expected r.progress] else []) := by
  simp [consume, settle_of_lt (progress_lt_of_expected h), h, hcode]

/-- The expected code moves on unless it is the last one. -/
theorem consume_expected
    {r : Recognizer C}
    {code expected : C}
    (h : r.sequence[r.progress]? = some expected)
    (hcode : (code == expected) = true)
    (hlt : r.progress + 1 < r.length) :
    r.consume (some code) =
      ({ r with progress := r.progress + 1 },
       .matched (r.progress + 1),
       [.matched (r.progress + 1) r.length]) := by
  simp [consume, settle_of_lt (progress_lt_of_expected h), h, hcode, hlt]

/-- The last code completes the sequence. -/
theorem consume_last
    {r : Recognizer C}
    {code expected : C}
    (h : r.sequence[r.progress]? = some expected)
    (hcode : (code == expected) = true)
    (hlast : r.progress + 1 = r.length) :
    r.consume (some code) =
      ({ r with progress := r.progress + 1, active := true, completions := r.completions + 1 },
       .completed,
       [.completed (r.completions + 1)]) := by
  simp [consume, settle_of_lt (progress_lt_of_expected h), h, hcode, hlast]

/-- An empty sequence is refused, configured or not. -/
theorem configure_empty
    (r : Recognizer C)
    (source : SourceId)
    (callback : CallbackRef) :
    r.configure [] source callback = .error (.invalidConfiguration .emptySequence) := by
  rfl

/-- An unconfigured recognizer takes any sequence that is not empty. -/
theorem configure_fresh
    {r : Recognizer C}
    (h : r.isConfigured = false)
    {sequence : List C}
    (hne : sequence ≠ [])
    (source : SourceId)
    (callback : CallbackRef) :
    r.configure sequence source callback =
      .ok
        ({ r with sequence, source := some source, callback := some callback, progress := 0 },
         [.configured sequence.length]) := by
  simp [configure, h, hne]

/-- A configured recognizer takes its own set-up again and refuses every other. -/
theorem configure_again
    {r : Recognizer C}
    (h : r.isConfigured = true)
    {sequence : List C}
    (hne : sequence ≠ [])
    (source : SourceId)
    (callback : CallbackRef) :
    r.configure sequence source callback =
      if r.isConfiguredWith sequence source callback then .ok (r, [])
      else .error .alreadyConfigured := by
  simp [configure, h, hne]

end Outcomes
end Recognizer
end ButtonCombo
