import ButtonCombo.Mask

/-!
# The game pad

The host writes the state of the pad once per tick, either as all buttons that are
held or as the buttons that were pressed since the last tick.  A recognizer sees
the frame: the buttons that went down in this tick.

A button that stays down goes down once.  The pad therefore remembers what was held
in the last tick; a press forgets it, because a host that reports presses never
reports a release.
-/

namespace ButtonCombo

/-- The held buttons and the frame of the current tick. -/
structure GamePad where
  held : Mask := .empty
  frame : Mask := .empty
  deriving DecidableEq

namespace GamePad

/-- A pad on which nothing has happened yet. -/
def new : GamePad :=
  {}

/-- Write all buttons that are held in this tick. -/
def update
    (pad : GamePad)
    (held : Mask) : GamePad :=
  { held, frame := held.difference pad.held }

/-- Write the buttons that were pressed in this tick. -/
def press
    (_pad : GamePad)
    (pressed : Mask) : GamePad :=
  { held := .empty, frame := pressed }

/-- Forget everything, as when the device is unplugged. -/
def clear (_pad : GamePad) : GamePad :=
  new

/-- The frame, unless no button went down. -/
def sample (pad : GamePad) : Option Mask :=
  if pad.frame.isEmpty then none else some pad.frame

theorem sample_press
    (pad : GamePad)
    {pressed : Mask}
    (h : pressed ≠ .empty) :
    (pad.press pressed).sample = some pressed := by
  simp [press, sample, h]

/-- A pad gives a sample exactly if its frame holds a button. -/
theorem sample_eq_some_iff
    {pad : GamePad}
    {mask : Mask} :
    pad.sample = some mask ↔ pad.frame = mask ∧ mask ≠ .empty := by
  unfold sample
  split <;> rename_i h <;> rw [Mask.isEmpty_iff] at h
  · simp only [reduceCtorEq, false_iff]
    rintro ⟨rfl, hne⟩
    exact hne h
  · simp only [Option.some.injEq]
    exact ⟨fun e => ⟨e, e ▸ h⟩, And.left⟩

end GamePad
end ButtonCombo
