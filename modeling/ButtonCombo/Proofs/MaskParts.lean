import ButtonCombo.Mask.Text
import ButtonCombo.Proofs.Pieces

/-!
# Reading masks part by part

A mask text is read if each of its parts is, and then stands for the buttons of all parts
together.  Otherwise the first part that is neither a button nor a word is reported, and
nothing behind it is looked at.

Main facts:

* `foldlM_addPart`, `foldlM_addPart_unknown`: the two outcomes for a list of parts;
* `ofChars_eq_ok`: a text all of whose parts are read;
* `ofChars_eq_error_iff`: what is reported about a text.
-/

namespace ButtonCombo
namespace Mask

/-- The part stands for the mask. -/
def Means
    (part : List Char)
    (mask : Mask) : Prop :=
  ofPart? part = some mask

/-- The first part of a mask text that is neither a button nor a word. -/
def FirstUnknown
    (text part : List Char) : Prop :=
  ∃ front back,
    partsOf text = front ++ part :: back ∧
    (∀ known ∈ front, ∃ mask, Means known mask) ∧
    ofPart? part = none

/-- The bits of joined masks are those of each of them. -/
theorem getLsbD_foldl_or
    (masks : List Mask)
    (mask : Mask)
    (i : Nat) :
    (masks.foldl (· ||| ·) mask).bits.getLsbD i =
      (mask.bits.getLsbD i || masks.any (·.bits.getLsbD i)) := by
  induction masks generalizing mask with
  | nil => simp
  | cons more masks ih =>
      rw [List.foldl_cons, ih, List.any_cons, bits_or, BitVec.getLsbD_or, Bool.or_assoc]

/-- Masks are joined without regard to their order and to repetitions. -/
theorem foldl_or_congr
    {masks others : List Mask}
    (h : ∀ mask, mask ∈ masks ↔ mask ∈ others) :
    masks.foldl (· ||| ·) empty = others.foldl (· ||| ·) empty := by
  ext1
  refine BitVec.eq_of_getLsbD_eq fun i _ => ?_
  rw [getLsbD_foldl_or, getLsbD_foldl_or]
  congr 1
  rw [Bool.eq_iff_iff, List.any_eq_true, List.any_eq_true]
  simp only [h]

section Parts

variable {parts front : List (List Char)} {part : List Char}

/-- Parts that are all read add their masks. -/
theorem foldlM_addPart
    {masks : List Mask}
    (h : List.Forall₂ Means parts masks)
    (mask : Mask) :
    parts.foldlM addPart mask = .ok (masks.foldl (· ||| ·) mask) := by
  induction h generalizing mask with
  | nil => rfl
  | @cons part more parts masks hpart hparts ih =>
      have hstep : addPart mask part = .ok (mask ||| more) := by
        rw [Means] at hpart
        simp only [addPart, hpart]
      rw [List.foldlM_cons, hstep]
      exact ih (mask ||| more)

/-- The first part that is not read is reported, whatever comes after it. -/
theorem foldlM_addPart_unknown
    (hfront : ∀ known ∈ front, ∃ mask, Means known mask)
    (hpart : ofPart? part = none)
    (back : List (List Char))
    (mask : Mask) :
    (front ++ part :: back).foldlM addPart mask = .error ⟨String.ofList part⟩ := by
  induction front generalizing mask with
  | nil =>
      have hstep : addPart mask part = .error ⟨String.ofList part⟩ := by
        simp only [addPart, hpart]
      rw [List.nil_append, List.foldlM_cons, hstep]
      rfl
  | cons known front ih =>
      obtain ⟨⟨more, hmore⟩, hrest⟩ := List.forall_mem_cons.mp hfront
      have hstep : addPart mask known = .ok (mask ||| more) := by
        rw [Means] at hmore
        simp only [addPart, hmore]
      rw [List.cons_append, List.foldlM_cons, hstep]
      exact ih hrest (mask ||| more)

/-- Either all parts are read, or one of them is the first that is not. -/
theorem means_or_unknown
    (parts : List (List Char)) :
    (∃ masks, List.Forall₂ Means parts masks) ∨
      ∃ front part back,
        parts = front ++ part :: back ∧
        (∀ known ∈ front, ∃ mask, Means known mask) ∧
        ofPart? part = none := by
  rcases Text.forall₂_or_first Means parts with
    hread | ⟨front, part, back, hparts, hfront, hpart⟩
  · exact Or.inl hread
  · exact Or.inr ⟨front, part, back, hparts, hfront, Option.eq_none_iff_forall_ne_some.mpr hpart⟩

end Parts

section Texts

variable {text : List Char}

/-- A text all of whose parts are read is read. -/
theorem ofChars_eq_ok
    {masks : List Mask}
    (h : List.Forall₂ Means (partsOf text) masks) :
    ofChars text = .ok (masks.foldl (· ||| ·) empty) :=
  foldlM_addPart h empty

theorem ofChars_of_firstUnknown
    {part : List Char}
    (h : FirstUnknown text part) :
    ofChars text = .error ⟨String.ofList part⟩ := by
  obtain ⟨front, back, hparts, hfront, hpart⟩ := h
  rw [ofChars, hparts]
  exact foldlM_addPart_unknown hfront hpart back empty

/-- What is reported is the first part that is not read. -/
theorem ofChars_eq_error_iff
    {unknown : UnknownButton} :
    ofChars text = .error unknown ↔
      ∃ part, FirstUnknown text part ∧ unknown = ⟨String.ofList part⟩ := by
  constructor
  · intro h
    rcases means_or_unknown (partsOf text) with
      ⟨masks, hmasks⟩ | ⟨front, part, back, hparts, hfront, hpart⟩
    · rw [ofChars_eq_ok hmasks] at h
      cases h
    · have hfirst : FirstUnknown text part := ⟨front, back, hparts, hfront, hpart⟩
      rw [ofChars_of_firstUnknown hfirst] at h
      cases h
      exact ⟨part, hfirst, rfl⟩
  · rintro ⟨part, hfirst, rfl⟩
    exact ofChars_of_firstUnknown hfirst

end Texts
end Mask
end ButtonCombo
