import ButtonCombo.Button

/-!
# Button masks

A mask is the set of buttons that went down in one frame, kept as the controller's
16-bit word.  It is the code a pad hands to a recognizer: one button is a mask with
one bit, a chord has several bits and equals only the same chord.  The empty mask
stands for "no input".

Four bits belong to no button.  They are carried along, so that a mask is never
changed by being read, combined or printed.
-/

namespace ButtonCombo

/-- The buttons that went down in one frame. -/
structure Mask where
  bits : BitVec 16
  deriving DecidableEq

namespace Mask

/-- The mask of no button at all. -/
def empty : Mask :=
  ⟨0⟩

/-- The buttons of both masks together. -/
instance : OrOp Mask :=
  ⟨fun a b => ⟨a.bits ||| b.bits⟩⟩

/-- No button is down. -/
def isEmpty (mask : Mask) : Bool :=
  mask.bits == 0

/-- The mask of a single button. -/
def ofButton (button : Button) : Mask :=
  ⟨button.bit⟩

/-- The button is down. -/
def contains
    (mask : Mask)
    (button : Button) : Bool :=
  mask.bits &&& button.bit != 0

/-- What is down in the mask and not in the other one. -/
def difference
    (mask other : Mask) : Mask :=
  ⟨mask.bits &&& ~~~other.bits⟩

/-- The buttons of a mask, lowest bit first. -/
def buttons (mask : Mask) : List Button :=
  Button.all.filter mask.contains

/-- The button of a mask that holds exactly one and nothing else. -/
def single? (mask : Mask) : Option Button :=
  Button.ofBit? mask.bits

/-- The mask with some buttons added to it. -/
def addButtons
    (mask : Mask)
    (buttons : List Button) : Mask :=
  buttons.foldl (fun mask button => mask ||| ofButton button) mask

/-- The part of a mask that no button names. -/
def unnamed (mask : Mask) : Mask :=
  mask.difference (empty.addButtons Button.all)

@[ext] theorem ext
    {a b : Mask}
    (h : a.bits = b.bits) :
    a = b := by
  cases a
  cases b
  exact congrArg Mask.mk h

@[simp] theorem bits_empty :
    empty.bits = 0 := by
  rfl

@[simp] theorem bits_or
    (a b : Mask) :
    (a ||| b).bits = a.bits ||| b.bits := by
  rfl

@[simp] theorem bits_difference
    (a b : Mask) :
    (a.difference b).bits = a.bits &&& ~~~b.bits := by
  rfl

@[simp] theorem isEmpty_iff
    {mask : Mask} :
    mask.isEmpty = true ↔ mask = empty := by
  simp [isEmpty, Mask.ext_iff]

theorem or_assoc
    (a b c : Mask) :
    a ||| b ||| c = a ||| (b ||| c) := by
  ext1
  simp [BitVec.or_assoc]

theorem or_comm
    (a b : Mask) :
    a ||| b = b ||| a := by
  ext1
  simp [BitVec.or_comm]

@[simp] theorem or_empty
    (a : Mask) :
    a ||| empty = a := by
  ext1
  simp

/-- A mask holds one button and nothing else exactly if it is that button's mask. -/
theorem single?_eq_some_iff
    {mask : Mask}
    {button : Button} :
    mask.single? = some button ↔ mask = ofButton button := by
  rw [single?, Button.ofBit?_eq_some_iff, Mask.ext_iff]
  exact eq_comm

end Mask
end ButtonCombo
