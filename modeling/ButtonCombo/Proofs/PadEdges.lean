import ButtonCombo.GamePad
import Mathlib.Data.Set.Card

/-!
# What goes down on a pad

A button goes down when it is held and was not held before.  What was held before is told by
the last operation on the pad: an update says what is held, and after anything else nothing
is.  In a run of updates a bit therefore goes down once for each block of updates that hold
it, at the beginning of the block.

Main facts:

* `held_run`, `leaves_run`: what a pad remembers of its operations, and what the last of
  them leaves on it;
* `frames_eq`: the frames of a run of updates;
* `encard_heldBlock`: a block is known by its beginning;
* `countP_frames`: how often a bit goes down in a run of updates.
-/

namespace ButtonCombo

namespace Mask

theorem getLsbD_difference
    (mask other : Mask)
    (bit : Nat) :
    (mask.difference other).bits.getLsbD bit =
      (mask.bits.getLsbD bit && !other.bits.getLsbD bit) := by
  rw [bits_difference, BitVec.getLsbD_and, BitVec.getLsbD_not]
  cases hbit : mask.bits.getLsbD bit with
  | false => rfl
  | true => simp [BitVec.lt_of_getLsbD hbit]

end Mask

namespace GamePad

/-- What a host does to a pad. -/
inductive Op
  | update (held : Mask)
  | press (pressed : Mask)
  | clear

/-- The pad after an operation. -/
def step (pad : GamePad) : Op → GamePad
  | .update held => pad.update held
  | .press pressed => pad.press pressed
  | .clear => pad.clear

/-- The pad after several operations, one after the other. -/
def run
    (pad : GamePad)
    (ops : List Op) : GamePad :=
  ops.foldl step pad

/-- What counts as held once the operations are over: the mask of the last one if it was an
update, and nothing otherwise. -/
def baseline (ops : List Op) : Mask :=
  match ops.getLast? with
  | some (.update held) => held
  | _ => .empty

theorem run_concat
    (pad : GamePad)
    (ops : List Op)
    (op : Op) :
    pad.run (ops ++ [op]) = (pad.run ops).step op := by
  rw [run, run, List.foldl_append]
  rfl

/-- A new pad remembers the baseline of its operations. -/
theorem held_run
    (ops : List Op) :
    (new.run ops).held = baseline ops := by
  rcases List.eq_nil_or_concat ops with rfl | ⟨front, op, rfl⟩
  · rfl
  · rw [List.concat_eq_append, run_concat, baseline, List.getLast?_concat]
    cases op <;> rfl

/-- What an operation leaves of itself on a pad on which this mask was held before. -/
def Leaves
    (before : Mask)
    (pad : GamePad) : Op → Prop
  | .update held =>
      pad.held = held ∧ ∀ bit, pad.frame.bits.getLsbD bit = true ↔
        held.bits.getLsbD bit = true ∧ before.bits.getLsbD bit = false
  | .press pressed => pad.frame = pressed ∧ pad.held = .empty
  | .clear => pad.frame = .empty ∧ pad.held = .empty

theorem leaves_step
    (pad : GamePad)
    (op : Op) :
    Leaves pad.held (pad.step op) op := by
  cases op with
  | update held =>
      refine ⟨rfl, fun bit => ?_⟩
      rw [step, update, Mask.getLsbD_difference, Bool.and_eq_true, Bool.not_eq_true']
  | press pressed => exact ⟨rfl, rfl⟩
  | clear => exact ⟨rfl, rfl⟩

/-- What the last operation of a run leaves on a new pad. -/
theorem leaves_run
    (ops : List Op)
    (op : Op) :
    Leaves (baseline ops) (new.run (ops ++ [op])) op := by
  rw [run_concat, ← held_run]
  exact leaves_step _ op

end GamePad

/-- What is held in each update and was not held in the one before. -/
def newlyHeld
    (before : Mask)
    (updates : List Mask) : List Mask :=
  List.zipWith Mask.difference updates (before :: updates)

theorem newlyHeld_cons
    (before held : Mask)
    (updates : List Mask) :
    newlyHeld before (held :: updates) = held.difference before :: newlyHeld held updates := by
  rfl

namespace GamePad

/-- The frames of a run of updates. -/
def frames (pad : GamePad) : List Mask → List Mask
  | [] => []
  | held :: rest => (pad.update held).frame :: (pad.update held).frames rest

/-- The frames of a run of updates are what is newly held in them. -/
theorem frames_eq
    (pad : GamePad)
    (updates : List Mask) :
    pad.frames updates = newlyHeld pad.held updates := by
  induction updates generalizing pad with
  | nil => rfl
  | cons held rest ih =>
      rw [frames, ih, newlyHeld_cons]
      rfl

end GamePad

section Blocks

variable {updates : List Mask} {bit i : Nat}

/-- The bit is held in the update of that number, counted from zero. -/
def HeldAt
    (updates : List Mask)
    (bit i : Nat) : Prop :=
  ∃ mask, updates[i]? = some mask ∧ mask.bits.getLsbD bit = true

/-- A longest block of updates that all hold the bit: it goes from the first of them to
just before the last number. -/
structure HeldBlock
    (updates : List Mask)
    (bit first last : Nat) : Prop where
  nonempty : first < last
  held : ∀ i, first ≤ i → i < last → HeldAt updates bit i
  begins : ∀ i, i + 1 = first → ¬ HeldAt updates bit i
  ends : ¬ HeldAt updates bit last

/-- The bit is held in this update and was not held in the one before. -/
def GoesDown
    (updates : List Mask)
    (bit i : Nat) : Prop :=
  HeldAt updates bit i ∧ ∀ j, j + 1 = i → ¬ HeldAt updates bit j

theorem lt_length_of_heldAt
    (h : HeldAt updates bit i) :
    i < updates.length := by
  obtain ⟨mask, hmask, -⟩ := h
  exact (List.getElem?_eq_some_iff.mp hmask).1

/-- A block begins where the bit goes down. -/
theorem HeldBlock.goesDown
    {first last : Nat}
    (h : HeldBlock updates bit first last) :
    GoesDown updates bit first :=
  ⟨h.held first le_rfl h.nonempty, h.begins⟩

/-- Blocks with the same beginning end together. -/
theorem HeldBlock.unique
    {first last other : Nat}
    (h : HeldBlock updates bit first last)
    (hother : HeldBlock updates bit first other) :
    last = other := by
  rcases Nat.lt_trichotomy last other with hlt | heq | hgt
  · exact absurd (hother.held last h.nonempty.le hlt) h.ends
  · exact heq
  · exact absurd (h.held other hother.nonempty.le hgt) hother.ends

/-- Where the bit goes down a block begins. -/
theorem exists_heldBlock
    (h : GoesDown updates bit i) :
    ∃ last, HeldBlock updates bit i last := by
  have hsome : ∃ last, i ≤ last ∧ ¬ HeldAt updates bit last :=
    ⟨updates.length, (lt_length_of_heldAt h.1).le, fun hheld =>
      Nat.lt_irrefl _ (lt_length_of_heldAt hheld)⟩
  -- the block goes up to the first update that does not hold the bit
  classical
  obtain ⟨hle, hends⟩ := Nat.find_spec hsome
  refine ⟨Nat.find hsome, ?_, ?_, h.2, hends⟩
  · refine Nat.lt_of_le_of_ne hle fun heq => ?_
    rw [← heq] at hends
    exact hends h.1
  · intro j hij hj
    by_contra hheld
    exact Nat.find_min hsome hj ⟨hij, hheld⟩

/-- A block is known by its beginning. -/
theorem encard_heldBlock
    (updates : List Mask)
    (bit : Nat) :
    Set.encard {block : Nat × Nat | HeldBlock updates bit block.1 block.2} =
      Set.encard {i | GoesDown updates bit i} := by
  have himage : Prod.fst '' {block : Nat × Nat | HeldBlock updates bit block.1 block.2} =
      {i | GoesDown updates bit i} := by
    ext i
    constructor
    · rintro ⟨⟨first, last⟩, hblock, rfl⟩
      exact hblock.goesDown
    · intro hdown
      obtain ⟨last, hblock⟩ := exists_heldBlock hdown
      exact ⟨(i, last), hblock, rfl⟩
  have hinjOn : Set.InjOn Prod.fst
      {block : Nat × Nat | HeldBlock updates bit block.1 block.2} := by
    rintro ⟨first, last⟩ hblock ⟨other, stop⟩ hother heq
    cases heq
    exact Prod.ext rfl (HeldBlock.unique hblock hother)
  rw [← himage, hinjOn.encard_image]

theorem heldAt_concat_iff
    {masks : List Mask}
    {mask : Mask} :
    HeldAt (masks ++ [mask]) bit i ↔
      HeldAt masks bit i ∨ i = masks.length ∧ mask.bits.getLsbD bit = true := by
  rcases Nat.lt_trichotomy i masks.length with hlt | rfl | hgt
  · simp [HeldAt, List.getElem?_append_left hlt, Nat.ne_of_lt hlt]
  · simp [HeldAt]
  · have hnone : (masks ++ [mask])[i]? = none := by
      rw [List.getElem?_eq_none_iff, List.length_append, List.length_singleton]
      omega
    have hshort : masks[i]? = none := List.getElem?_eq_none_iff.mpr hgt.le
    simp [HeldAt, hnone, hshort, Nat.ne_of_gt hgt]

/-- The masks that hold a bit are counted by their numbers. -/
theorem countP_eq_encard
    (masks : List Mask)
    (bit : Nat) :
    (masks.countP (·.bits.getLsbD bit) : ℕ∞) = Set.encard {i | HeldAt masks bit i} := by
  induction masks using List.reverseRecOn with
  | nil => simp [HeldAt]
  | append_singleton masks mask ih =>
      have hnew : masks.length ∉ {i | HeldAt masks bit i} :=
        fun hlast => Nat.lt_irrefl _ (lt_length_of_heldAt hlast)
      rw [List.countP_append, List.countP_singleton, Nat.cast_add, ih]
      cases hbit : mask.bits.getLsbD bit with
      | false => simp [heldAt_concat_iff, hbit]
      | true =>
          have hset : {i | HeldAt (masks ++ [mask]) bit i} =
              insert masks.length {i | HeldAt masks bit i} := by
            ext i
            simp [heldAt_concat_iff, hbit, or_comm]
          rw [hset, Set.encard_insert_of_notMem hnew]
          rfl

@[simp] theorem heldAt_cons_zero
    {mask : Mask}
    {masks : List Mask} :
    HeldAt (mask :: masks) bit 0 ↔ mask.bits.getLsbD bit = true := by
  simp [HeldAt]

@[simp] theorem heldAt_cons_succ
    {mask : Mask}
    {masks : List Mask} :
    HeldAt (mask :: masks) bit (i + 1) ↔ HeldAt masks bit i := by
  simp [HeldAt]

/-- A bit is newly held in an update if it is held there and was not held before. -/
theorem heldAt_newlyHeld_iff
    (before : Mask)
    (updates : List Mask)
    (bit i : Nat) :
    HeldAt (newlyHeld before updates) bit i ↔
      HeldAt updates bit i ∧ ¬ HeldAt (before :: updates) bit i := by
  induction updates generalizing before i with
  | nil => simp [newlyHeld, HeldAt]
  | cons held rest ih =>
      rw [newlyHeld_cons]
      cases i with
      | zero =>
          rw [heldAt_cons_zero, heldAt_cons_zero, heldAt_cons_zero, Mask.getLsbD_difference,
            Bool.and_eq_true, Bool.not_eq_true']
          simp
      | succ i => simp only [heldAt_cons_succ, ih]

/-- A frame of a new pad holds a bit exactly if the bit goes down in its update. -/
theorem heldAt_newlyHeld_empty_iff :
    HeldAt (newlyHeld .empty updates) bit i ↔ GoesDown updates bit i := by
  rw [heldAt_newlyHeld_iff, GoesDown]
  cases i with
  | zero => simp
  | succ i => simp

/-- A bit goes down once for each block of updates that hold it. -/
theorem countP_frames
    (updates : List Mask)
    (bit : Nat) :
    ((GamePad.new.frames updates).countP (·.bits.getLsbD bit) : ℕ∞) =
      Set.encard {block : Nat × Nat | HeldBlock updates bit block.1 block.2} := by
  rw [GamePad.frames_eq, countP_eq_encard, encard_heldBlock]
  congr 1
  ext i
  exact heldAt_newlyHeld_empty_iff

end Blocks

end ButtonCombo
