import ButtonCombo.Proofs.MaskParts

/-!
# Printed masks are read back

The printed parts of a mask are its buttons and the word of the bits without a button.
They consist of letters, digits and underscores, so no separator and no blank occurs in
them; each is read as what it was printed for, and together these are the mask again.

Main facts:

* `addButtons_or_unnamed`: a mask is made of its buttons and its unnamed bits;
* `means_parts`: what the printed parts are read as;
* `ofChars_text`: a mask that is not empty is read from its print.
-/

namespace ButtonCombo

namespace Text

/-- A text without blanks is already trimmed. -/
theorem trim_of_visible
    {cs : List Char}
    (h : ∀ c ∈ cs, isBlank c = false) :
    trim cs = cs :=
  trim_of_ends (fun c hc => h c (List.mem_of_head? hc)) fun c hc =>
    h c (List.mem_of_getLast? hc)

end Text

/-- Each button has one bit. -/
theorem Button.exists_bit_eq
    (button : Button) :
    ∃ i : Fin 16, button.bit = BitVec.twoPow 16 i := by
  cases button <;> decide

/-- No button has a name that starts with a digit. -/
theorem Button.ofName?_zero
    (text : List Char) :
    ofName? ('0' :: text) = none := by
  rw [ofName?, List.find?_eq_none]
  intro button _
  cases button <;> simp [names, name, alias?, sameName]

namespace Mask

section Bits

/-- For a bit that the button has, to contain the button is to have the bit. -/
theorem contains_eq_getLsbD
    (mask : Mask)
    {button : Button}
    {i : Nat}
    (h : button.bit.getLsbD i = true) :
    mask.contains button = mask.bits.getLsbD i := by
  obtain ⟨j, hj⟩ := button.exists_bit_eq
  rw [hj, BitVec.getLsbD_twoPow, Bool.and_eq_true, decide_eq_true_eq, decide_eq_true_eq] at h
  obtain ⟨hlt, rfl⟩ := h
  have hne : BitVec.twoPow 16 j ≠ 0#16 := by
    intro hzero
    have hbit := congrArg (·.getLsbD j) hzero
    simp [hlt] at hbit
  rw [contains, hj, BitVec.and_twoPow]
  cases mask.bits.getLsbD j <;> simp [hne]

theorem getLsbD_addButtons
    (mask : Mask)
    (buttons : List Button)
    (i : Nat) :
    (mask.addButtons buttons).bits.getLsbD i =
      (mask.bits.getLsbD i || buttons.any (·.bit.getLsbD i)) := by
  have hjoined : mask.addButtons buttons = (buttons.map ofButton).foldl (· ||| ·) mask := by
    rw [List.foldl_map]
    rfl
  rw [hjoined, getLsbD_foldl_or, List.any_map]
  rfl

/-- The buttons of a mask have the named ones among its bits. -/
theorem any_buttons
    (mask : Mask)
    (i : Nat) :
    mask.buttons.any (·.bit.getLsbD i) =
      (mask.bits.getLsbD i && Button.all.any (·.bit.getLsbD i)) := by
  rw [buttons, List.any_filter]
  induction Button.all with
  | nil => simp
  | cons button buttons ih =>
      rw [List.any_cons, List.any_cons, ih, Bool.and_or_distrib_left]
      cases hbit : button.bit.getLsbD i with
      | false => simp
      | true => rw [contains_eq_getLsbD mask hbit]

/-- A mask is made of its buttons and its unnamed bits. -/
theorem addButtons_or_unnamed
    (mask : Mask) :
    empty.addButtons mask.buttons ||| mask.unnamed = mask := by
  ext1
  refine BitVec.eq_of_getLsbD_eq fun i hi => ?_
  rw [bits_or, BitVec.getLsbD_or, getLsbD_addButtons, any_buttons, unnamed, bits_difference,
    BitVec.getLsbD_and, BitVec.getLsbD_not, getLsbD_addButtons]
  cases mask.bits.getLsbD i <;> cases Button.all.any (·.bit.getLsbD i) <;> simp [hi]

end Bits

section Characters

/-- A character that names and words are printed with. -/
def isPartChar (c : Char) : Bool :=
  c.isAlphanum || c = '_'

theorem isBlank_of_isPartChar
    {c : Char}
    (h : isPartChar c = true) :
    Text.isBlank c = false := by
  rw [Bool.eq_false_iff]
  intro hblank
  obtain ⟨r, hr, hfirst, hlast⟩ := Text.inRanges_iff.mp hblank
  -- the blanks are few enough to go through them one by one
  have hall : Text.blankRanges.all (fun r =>
      (List.range' r.1 (r.2 + 1 - r.1)).all fun n => !isPartChar (Char.ofNat n)) = true := by
    decide
  have hrange := List.all_eq_true.mp (List.all_eq_true.mp hall r hr) c.toNat
    (List.mem_range'_1.mpr ⟨hfirst, by omega⟩)
  rw [Char.ofNat_toNat, h] at hrange
  cases hrange

theorem isPartChar_digit
    {n : Nat}
    (h : n < 16) :
    isPartChar (Text.Hexadecimal.digit n) = true := by
  have hall : ∀ k : Fin 16, isPartChar (Text.Hexadecimal.digit k) = true := by decide
  exact hall ⟨n, h⟩

theorem isPartChar_digits
    (word : BitVec 16) :
    ∀ c ∈ Text.Hexadecimal.digits word, isPartChar c = true := by
  intro c hc
  obtain ⟨n, hn, rfl⟩ := Text.Hexadecimal.exists_digit_of_mem hc
  exact isPartChar_digit hn

theorem isPartChar_name
    (button : Button) :
    ∀ c ∈ button.name.toList, isPartChar c = true := by
  have hall : button.name.toList.all isPartChar = true := by
    cases button <;> decide
  exact List.all_eq_true.mp hall

theorem isPartChar_of_mem_parts
    {mask : Mask}
    {part : String}
    (h : part ∈ mask.parts) :
    ∀ c ∈ part.toList, isPartChar c = true := by
  rw [parts, List.mem_append] at h
  rcases h with hname | hword
  · obtain ⟨button, -, rfl⟩ := List.mem_map.mp hname
    exact isPartChar_name button
  · split at hword
    · cases hword
    · rw [List.mem_singleton] at hword
      subst hword
      rw [String.toList_ofList, List.forall_mem_cons, List.forall_mem_cons]
      exact ⟨by decide, by decide, isPartChar_digits mask.unnamed.bits⟩

/-- A printed mask has no characters besides those of its parts, the separator, and the
dash of the empty mask. -/
theorem mem_text
    {mask : Mask}
    {c : Char}
    (h : c ∈ mask.text.toList) :
    isPartChar c = true ∨ c = '+' ∨ c = '-' := by
  rw [text] at h
  split at h
  · exact Or.inr (Or.inr (List.mem_singleton.mp h))
  · rw [String.toList_intercalate] at h
    rcases Text.mem_intercalate h with hseparator | ⟨part, hpart, hc⟩
    · exact Or.inr (Or.inl (List.mem_singleton.mp hseparator))
    · obtain ⟨printed, hprinted, rfl⟩ := List.mem_map.mp hpart
      exact Or.inl (isPartChar_of_mem_parts hprinted c hc)

end Characters

section Parts

/-- What the printed parts of a mask stand for: its buttons, then its unnamed bits. -/
def pieces (mask : Mask) : List Mask :=
  mask.buttons.map ofButton ++ if mask.unnamed.isEmpty then [] else [mask.unnamed]

theorem foldl_pieces
    (mask : Mask) :
    mask.pieces.foldl (· ||| ·) empty = mask := by
  have hbuttons : (mask.buttons.map ofButton).foldl (· ||| ·) empty =
      empty.addButtons mask.buttons := by
    rw [List.foldl_map]
    rfl
  rw [pieces, List.foldl_append, hbuttons]
  have hwhole := mask.addButtons_or_unnamed
  split
  · rename_i hnone
    rw [isEmpty_iff.mp hnone, or_empty] at hwhole
    exact hwhole
  · exact hwhole

/-- The name of a button means the button. -/
theorem means_name
    (button : Button) :
    Means button.name.toList (ofButton button) := by
  rw [Means, ofPart?, Button.ofName?_name]
  rfl

/-- A word in print is not taken for a button. -/
theorem means_word
    (mask : Mask) :
    Means ('0' :: 'x' :: Text.Hexadecimal.digits mask.bits) mask := by
  simp [Means, ofPart?, Button.ofName?_zero, ofWord?, Text.Hexadecimal.word?_digits]

/-- The printed parts are read as what they were printed for. -/
theorem means_parts
    (mask : Mask) :
    List.Forall₂ Means (mask.parts.map String.toList) mask.pieces := by
  rw [parts, pieces, List.map_append, List.map_map]
  refine List.rel_append ?_ ?_
  · rw [List.forall₂_map_left_iff, List.forall₂_map_right_iff, List.forall₂_same]
    exact fun button _ => means_name button
  · split
    · exact .nil
    · rw [List.map_singleton, String.toList_ofList]
      exact .cons (means_word mask.unnamed) .nil

/-- A mask that is not empty has a printed part. -/
theorem parts_ne_nil
    {mask : Mask}
    (h : mask ≠ empty) :
    mask.parts ≠ [] := by
  intro hnone
  have hpieces := mask.means_parts
  rw [hnone] at hpieces
  cases hnil : mask.pieces with
  | nil =>
      have hwhole := mask.foldl_pieces
      rw [hnil] at hwhole
      exact h hwhole.symm
  | cons => simp [hnil] at hpieces

end Parts

/-- The parts of a printed mask are its printed parts. -/
theorem partsOf_text
    {mask : Mask}
    (h : mask ≠ empty) :
    partsOf mask.text.toList = mask.parts.map String.toList := by
  have hvisible : ∀ c ∈ mask.text.toList, Text.isBlank c = false := by
    intro c hc
    rcases mem_text hc with hpart | rfl | rfl
    · exact isBlank_of_isPartChar hpart
    · decide
    · decide
  have hparts : ∀ part ∈ mask.parts.map String.toList, ∀ c ∈ part, isPartChar c = true := by
    intro part hpart
    obtain ⟨printed, hprinted, rfl⟩ := List.mem_map.mp hpart
    exact isPartChar_of_mem_parts hprinted
  have hsplit : mask.text.toList.splitOn '+' = mask.parts.map String.toList := by
    have hne : mask.isEmpty = false := by
      rw [Bool.eq_false_iff]
      exact fun hempty => h (isEmpty_iff.mp hempty)
    rw [text, hne, if_neg Bool.false_ne_true, String.toList_intercalate]
    refine List.splitOn_intercalate '+' ?_ ?_
    · intro part hpart hplus
      exact absurd (hparts part hpart '+' hplus) (by decide)
    · simpa using parts_ne_nil h
  have htrim : ∀ part ∈ mask.parts.map String.toList, Text.trim part = part := fun part hpart =>
    Text.trim_of_visible fun c hc => isBlank_of_isPartChar (hparts part hpart c hc)
  rw [partsOf, Text.trim_of_visible hvisible, hsplit]
  exact (List.map_congr_left htrim).trans (List.map_id _)

/-- A mask that is not empty is read from its print. -/
theorem ofChars_text
    {mask : Mask}
    (h : mask ≠ empty) :
    ofChars mask.text.toList = .ok mask := by
  have hread : List.Forall₂ Means (partsOf mask.text.toList) mask.pieces := by
    rw [partsOf_text h]
    exact mask.means_parts
  rw [ofChars_eq_ok hread, foldl_pieces]

/-- The print of the empty mask is not read. -/
theorem ofChars_text_empty :
    ofChars empty.text.toList = .error ⟨"-"⟩ := by
  rfl

end Mask
end ButtonCombo
