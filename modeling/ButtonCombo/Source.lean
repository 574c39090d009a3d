import ButtonCombo.GamePad

/-!
# Sources of input

A source hands out one sample when it is read: a code, or nothing when there was no
input.  Three kinds are in use.

* A latch holds the sample that the host wrote last and hands it out on every read.
* A queue holds samples in the order in which the host wrote them and hands each of
  them out once; an empty queue has nothing to hand out.  It counts how often it was
  read.
* A pad hands out its frame.  Its frames are masks; how they appear as codes of the
  recognizer's type is part of the source.
-/

namespace ButtonCombo

/-- How the frames of a pad appear as codes, and which frame a code stands for. -/
structure FrameCode (C : Type) where
  code : Mask → C
  frame : C → Mask

/-- Frames that are codes themselves. -/
def FrameCode.plain : FrameCode Mask :=
  ⟨id, id⟩

/-- Something a recognizer can read once per tick. -/
inductive Source (C : Type)
  | latch (sample : Option C)
  | queue (waiting : List (Option C)) (reads : Nat)
  | pad (pad : GamePad) (coding : FrameCode C)

/-- What a host can write to a source.  Only a pad knows about held and pressed
buttons; the other sources stay as they are under such a write. -/
inductive Write (C : Type)
  | sample (sample : Option C)
  | hold (held : Mask)
  | press (pressed : Mask)
  | clear

namespace Source

variable {C : Type}

/-- A read: the sample, and the source that is left. -/
def read : Source C → Option C × Source C
  | latch sample => (sample, latch sample)
  | queue [] reads => (none, queue [] (reads + 1))
  | queue (sample :: waiting) reads => (sample, queue waiting (reads + 1))
  | pad p coding => (p.sample.map coding.code, pad p coding)

/-- The source after a write of the host. -/
def write : Source C → Write C → Source C
  | latch _, .sample sample => latch sample
  | latch _, .clear => latch none
  | latch sample, _ => latch sample
  | queue waiting reads, .sample sample => queue (waiting ++ [sample]) reads
  | queue _ reads, .clear => queue [] reads
  | queue waiting reads, _ => queue waiting reads
  | pad p coding, .sample sample => pad (p.press (sample.elim .empty coding.frame)) coding
  | pad p coding, .hold held => pad (p.update held) coding
  | pad p coding, .press pressed => pad (p.press pressed) coding
  | pad p coding, .clear => pad p.clear coding

@[simp] theorem read_pad
    (p : GamePad)
    (coding : FrameCode C) :
    (pad p coding).read = (p.sample.map coding.code, pad p coding) := by
  rfl

end Source
end ButtonCombo
