import ButtonCombo.Proofs.MaskPrint
import Mathlib

/-!
# The grammar of mask texts

A mask text is a list of parts with plus signs between them.  A part spells a button or a
word of hexadecimal digits behind `0x`, in any mixture of upper and lower case and with any
padding around it; the text stands for all of its parts together.  The first part that
spells nothing is reported, trimmed and otherwise as it was written.

Numbers are read with a sign, but a part never has one: a plus sign ends the part.

Main facts:

* `digit?_eq_some_iff`, `value?_eq_some_iff`, `word?_eq_some_iff`: how words are read;
* `ofName?_eq_some_iff`: how names are read;
* `means_iff_spells`: a part stands for what it spells;
* `ofChars_append_plus`: two texts with a plus sign between them;
* `ofChars_of_piecesAmong`: order, repetition, case and padding make no difference;
* `parse_grammar`: the whole of it.
-/

namespace ButtonCombo

namespace Text

/-- A character that has a given lower case is that character or its upper case. -/
theorem eq_or_eq_toUpper
    {c d : Char}
    (h : c.toLower = d) :
    c = d ∨ c = d.toUpper := by
  cases hupper : c.isUpper with
  | false => exact Or.inl ((Char.toLower_eq_of_not_isUpper (by simp [hupper])).symm.trans h)
  | true =>
      refine Or.inr ?_
      have hlower : ¬ c.isLower = true := Char.not_isLower_of_isUpper hupper
      rw [← h, Char.toUpper_toLower_eq_toUpper, Char.toUpper_eq_of_not_isLower hlower]

namespace Hexadecimal

/-- The digits are read in either case, and nothing else is. -/
theorem digit?_eq_some_iff
    {c : Char}
    {value : Nat} :
    digit? c = some value ↔ value < 16 ∧ c.toLower = digit value := by
  constructor
  · intro h
    have hbelow : ∀ d : Char, d.toNat < 128 → c ≤ d → c.toNat < 128 := fun d hd hc =>
      Nat.lt_of_le_of_lt (UInt32.le_iff_toNat_le.mp hc) hd
    have hascii : c.toNat < 128 := by
      unfold digit? at h
      split at h
      next hc => exact hbelow '9' (by decide) hc.2
      next =>
        split at h
        next hc => exact hbelow 'f' (by decide) hc.2
        next =>
          split at h
          next hc => exact hbelow 'F' (by decide) hc.2
          next => cases h
    -- the characters of ASCII are few enough to go through them one by one
    have hall : ∀ n : Fin 128, ∀ value ∈ digit? (Char.ofNat n),
        value < 16 ∧ (Char.ofNat n).toLower = digit value := by decide
    have hc := hall ⟨c.toNat, hascii⟩ value
    rw [Char.ofNat_toNat] at hc
    exact hc h
  · rintro ⟨hvalue, hlower⟩
    have hall : ∀ k : Fin 16, digit? (digit k).toUpper = some k.val := by decide
    rcases eq_or_eq_toUpper hlower with rfl | rfl
    · exact digit?_digit hvalue
    · exact hall ⟨value, hvalue⟩

/-- The digits in either case, from the highest to the lowest. -/
def AreDigits
    (cs : List Char)
    (values : List Nat) : Prop :=
  (∀ value ∈ values, value < 16) ∧ cs.map Char.toLower = values.map digit

theorem areDigits_cons_iff
    {c : Char}
    {cs : List Char}
    {value : Nat}
    {values : List Nat} :
    AreDigits (c :: cs) (value :: values) ↔ digit? c = some value ∧ AreDigits cs values := by
  rw [digit?_eq_some_iff, AreDigits, AreDigits, List.forall_mem_cons, List.map_cons,
    List.map_cons, List.cons.injEq]
  constructor
  · rintro ⟨⟨hvalue, hvalues⟩, hc, hcs⟩
    exact ⟨⟨hvalue, hc⟩, hvalues, hcs⟩
  · rintro ⟨⟨hvalue, hc⟩, hvalues, hcs⟩
    exact ⟨⟨hvalue, hvalues⟩, hc, hcs⟩

/-- Digits are taken up from the highest to the lowest. -/
theorem foldlM_digit?
    {cs : List Char}
    {start n : Nat} :
    cs.foldlM (fun n c => (digit? c).map (16 * n + ·)) start = some n ↔
      ∃ values, AreDigits cs values ∧
        n = values.foldl (fun n value => 16 * n + value) start := by
  induction cs generalizing start with
  | nil => simp [AreDigits, eq_comm]
  | cons c cs ih =>
      rw [List.foldlM_cons]
      constructor
      · intro h
        obtain ⟨next, hnext, hrest⟩ := Option.bind_eq_some_iff.mp h
        obtain ⟨value, hvalue, rfl⟩ := Option.map_eq_some_iff.mp hnext
        obtain ⟨values, hdigits, rfl⟩ := ih.mp hrest
        exact ⟨value :: values, areDigits_cons_iff.mpr ⟨hvalue, hdigits⟩, rfl⟩
      · rintro ⟨values, hdigits, rfl⟩
        cases values with
        | nil => cases hdigits.2
        | cons value values =>
            obtain ⟨hvalue, hrest⟩ := areDigits_cons_iff.mp hdigits
            rw [hvalue]
            exact ih.mpr ⟨values, hrest, rfl⟩

/-- A text of digits has their value in base sixteen. -/
theorem value?_eq_some_iff
    {cs : List Char}
    {n : Nat} :
    value? cs = some n ↔
      ∃ values, values ≠ [] ∧ AreDigits cs values ∧ n = Nat.ofDigits 16 values.reverse := by
  have hvalue : ∀ values : List Nat,
      values.foldl (fun n value => 16 * n + value) 0 = Nat.ofDigits 16 values.reverse := by
    intro values
    rw [Nat.ofDigits_eq_foldr, List.foldr_reverse]
    simp only [Nat.cast_id, Nat.add_comm]
  cases cs with
  | nil =>
      simp only [value?, reduceCtorEq, false_iff]
      rintro ⟨values, hne, hdigits, -⟩
      exact hne (List.map_eq_nil_iff.mp hdigits.2.symm)
  | cons c cs =>
      have hfold : value? (c :: cs) =
          (c :: cs).foldlM (fun n c => (digit? c).map (16 * n + ·)) 0 := rfl
      rw [hfold, foldlM_digit?]
      constructor
      · rintro ⟨values, hdigits, rfl⟩
        refine ⟨values, ?_, hdigits, hvalue values⟩
        rintro rfl
        cases hdigits.2
      · rintro ⟨values, -, hdigits, rfl⟩
        exact ⟨values, hdigits, (hvalue values).symm⟩

/-- Without a sign in front, a word is read from digits whose value fits. -/
theorem word?_eq_some_iff
    {cs : List Char}
    (h : '+' ∉ cs)
    {word : BitVec 16} :
    word? cs = some word ↔
      ∃ values, values ≠ [] ∧ AreDigits cs values ∧ Nat.ofDigits 16 values.reverse ≤ 0xFFFF ∧
        word = BitVec.ofNat 16 (Nat.ofDigits 16 values.reverse) := by
  rw [word?, unsigned_of_not_mem h, Option.bind_eq_some_iff]
  constructor
  · rintro ⟨n, hn, hword⟩
    obtain ⟨values, hne, hdigits, rfl⟩ := value?_eq_some_iff.mp hn
    split at hword
    next hfits =>
      cases hword
      exact ⟨values, hne, hdigits, Nat.le_of_lt_succ hfits, rfl⟩
    next => cases hword
  · rintro ⟨values, hne, hdigits, hfits, rfl⟩
    exact ⟨_, value?_eq_some_iff.mpr ⟨values, hne, hdigits, rfl⟩,
      if_pos (Nat.lt_succ_of_le hfits)⟩

end Hexadecimal
end Text

/-- A button answers to its names in any mixture of upper and lower case, and to nothing
else. -/
theorem Button.ofName?_eq_some_iff
    {text : List Char}
    {button : Button} :
    ofName? text = some button ↔
      ∃ name ∈ button.names, text.map Char.toLower = name.toList.map Char.toLower := by
  constructor
  · intro h
    have hnames := List.find?_some h
    obtain ⟨name, hname, hsame⟩ := List.any_eq_true.mp hnames
    exact ⟨name, hname, (beq_iff_eq.mp hsame).symm⟩
  · rintro ⟨name, hname, hlower⟩
    have hown : ∀ name ∈ button.names, ofName? name.toList = some button := by
      cases button <;> decide
    have hcase : ofName? text = ofName? name.toList := by
      simp only [ofName?, sameName, hlower]
    exact hcase.trans (hown name hname)

namespace Mask

/-- What a part of a mask text spells, in any mixture of upper and lower case: a button by
one of its names, or a word by its digits. -/
inductive Spells : List Char → Mask → Prop
  | button
      {part : List Char}
      {button : Button}
      {name : String}
      (hname : name ∈ button.names)
      (hpart : part.map Char.toLower = name.toList.map Char.toLower) :
      Spells part (ofButton button)
  | word
      {part : List Char}
      {values : List Nat}
      (hne : values ≠ [])
      (hdigits : ∀ value ∈ values, value < 16)
      (hpart : part.map Char.toLower = '0' :: 'x' :: values.map Text.Hexadecimal.digit)
      (hfits : Nat.ofDigits 16 values.reverse ≤ 0xFFFF) :
      Spells part ⟨BitVec.ofNat 16 (Nat.ofDigits 16 values.reverse)⟩

/-- The names that a part can be. -/
example :
    Button.all.flatMap Button.names =
      ["DPAD_LEFT", "LEFT", "DPAD_RIGHT", "RIGHT", "DPAD_DOWN", "DOWN", "DPAD_UP", "UP",
       "Z", "R", "L", "A", "B", "X", "Y", "START"] := by
  rfl

section Parts

variable {part other : List Char} {mask : Mask}

/-- The case of a part makes no difference. -/
theorem Spells.of_lower
    (h : Spells part mask)
    (hlower : part.map Char.toLower = other.map Char.toLower) :
    Spells other mask := by
  cases h with
  | button hname hpart => exact .button hname (hlower.symm.trans hpart)
  | word hne hdigits hpart hfits => exact .word hne hdigits (hlower.symm.trans hpart) hfits

/-- What spells something is made of letters, digits and underscores. -/
theorem Spells.isPartChar
    (h : Spells part mask) :
    ∀ c ∈ part, Mask.isPartChar c.toLower = true := by
  suffices hlower : ∀ c ∈ part.map Char.toLower, Mask.isPartChar c = true from
    List.forall_mem_map.mp hlower
  cases h with
  | @button button name hname hpart =>
      have hnames : button.names.all (fun name =>
          (name.toList.map Char.toLower).all Mask.isPartChar) = true := by
        cases button <;> decide
      rw [hpart]
      exact List.all_eq_true.mp (List.all_eq_true.mp hnames name hname)
  | word hne hdigits hpart hfits =>
      rw [hpart, List.forall_mem_cons, List.forall_mem_cons, List.forall_mem_map]
      exact ⟨by decide, by decide, fun value hvalue => isPartChar_digit (hdigits value hvalue)⟩

/-- A word is read from the mark in front of it and its digits. -/
theorem ofWord?_eq_some_iff
    (h : '+' ∉ part) :
    ofWord? part = some mask ↔
      ∃ mark digits word,
        part = '0' :: mark :: digits ∧ (mark = 'x' ∨ mark = 'X') ∧
        Text.Hexadecimal.word? digits = some word ∧ mask = ⟨word⟩ := by
  constructor
  · intro hread
    unfold ofWord? at hread
    split at hread
    next mark digits =>
      split at hread
      next hmark =>
        obtain ⟨word, hword, rfl⟩ := Option.map_eq_some_iff.mp hread
        exact ⟨mark, digits, word, rfl, hmark, hword, rfl⟩
      next => cases hread
    next => cases hread
  · rintro ⟨mark, digits, word, rfl, hmark, hword, rfl⟩
    rw [ofWord?, if_pos hmark, hword]
    rfl

/-- A part stands for what it spells. -/
theorem means_iff_spells
    (h : '+' ∉ part) :
    Means part mask ↔ Spells part mask := by
  constructor
  · intro hmeans
    rw [Means, ofPart?] at hmeans
    cases hname : Button.ofName? part with
    | some button =>
        rw [hname] at hmeans
        cases hmeans
        obtain ⟨name, hmem, hpart⟩ := Button.ofName?_eq_some_iff.mp hname
        exact .button hmem hpart
    | none =>
        rw [hname] at hmeans
        obtain ⟨mark, digits, word, rfl, hmark, hword, rfl⟩ := (ofWord?_eq_some_iff h).mp hmeans
        have hplus : '+' ∉ digits := fun hmem => h (by simp [hmem])
        obtain ⟨values, hne, hdigits, hfits, rfl⟩ :=
          (Text.Hexadecimal.word?_eq_some_iff hplus).mp hword
        have hlower : mark.toLower = 'x' := by rcases hmark with rfl | rfl <;> rfl
        refine .word hne hdigits.1 ?_ hfits
        rw [List.map_cons, List.map_cons, hlower, hdigits.2]
        rfl
  · intro hspells
    rw [Means, ofPart?]
    cases hspells with
    | @button button name hmem hpart =>
        rw [Button.ofName?_eq_some_iff.mpr ⟨name, hmem, hpart⟩]
        rfl
    | @word values hne hdigits hpart hfits =>
        obtain ⟨zero, rest, rfl, hzero, hrest⟩ := List.map_eq_cons_iff.mp hpart
        obtain ⟨mark, digits, rfl, hmark, hlower⟩ := List.map_eq_cons_iff.mp hrest
        have hfirst : zero = '0' := (Text.eq_or_eq_toUpper hzero).elim id id
        subst hfirst
        have hplus : '+' ∉ digits := fun hmem => h (by simp [hmem])
        have hword := (Text.Hexadecimal.word?_eq_some_iff hplus).mpr
          ⟨values, hne, ⟨hdigits, hlower⟩, hfits, rfl⟩
        rw [Button.ofName?_zero]
        exact (ofWord?_eq_some_iff h).mpr
          ⟨mark, digits, _, rfl, Text.eq_or_eq_toUpper hmark, hword, rfl⟩

end Parts

section Texts

variable {text other : List Char} {mask : Mask}

/-- A text need not be trimmed before it is cut. -/
theorem partsOf_eq
    (text : List Char) :
    partsOf text = (text.splitOn '+').map Text.trim :=
  Text.map_trim_splitOn_trim (by decide) text

@[simp] theorem ofChars_trim
    (text : List Char) :
    ofChars (Text.trim text) = ofChars text := by
  rw [ofChars, ofChars, partsOf, partsOf, Text.trim_trim]

theorem partsOf_append_plus
    (a b : List Char) :
    partsOf (a ++ '+' :: b) = partsOf a ++ partsOf b := by
  rw [partsOf_eq, partsOf_eq, partsOf_eq, List.splitOn_append_cons_self, List.map_append]

theorem plus_not_mem_of_mem_partsOf :
    ∀ part ∈ partsOf text, '+' ∉ part := by
  intro part hpart hplus
  obtain ⟨piece, hpiece, rfl⟩ := List.mem_map.mp hpart
  exact Text.not_mem_of_mem_splitOn hpiece (Text.mem_of_mem_trim hplus)

theorem means_iff_spells_of_mem
    {part : List Char}
    (h : part ∈ partsOf text) :
    Means part mask ↔ Spells part mask :=
  means_iff_spells (plus_not_mem_of_mem_partsOf part h)

theorem forall₂_means_iff
    {masks : List Mask} :
    List.Forall₂ Means (partsOf text) masks ↔ List.Forall₂ Spells (partsOf text) masks := by
  have hplus : ∀ part ∈ partsOf text, '+' ∉ part := plus_not_mem_of_mem_partsOf
  constructor
  · intro h
    have hboth := (List.forall₂_and_left _ _).mpr ⟨hplus, h⟩
    exact hboth.imp fun _ _ h => (means_iff_spells h.1).mp h.2
  · intro h
    have hboth := (List.forall₂_and_left _ _).mpr ⟨hplus, h⟩
    exact hboth.imp fun _ _ h => (means_iff_spells h.1).mpr h.2

/-- The accepted texts are those whose parts all spell something. -/
theorem ofChars_eq_ok_iff :
    ofChars text = .ok mask ↔
      ∃ masks,
        List.Forall₂ Spells (partsOf text) masks ∧ mask = masks.foldl (· ||| ·) empty := by
  constructor
  · intro h
    rcases means_or_unknown (partsOf text) with
      ⟨masks, hmasks⟩ | ⟨front, part, back, hparts, hfront, hpart⟩
    · rw [ofChars_eq_ok hmasks] at h
      cases h
      exact ⟨masks, forall₂_means_iff.mp hmasks, rfl⟩
    · rw [ofChars_of_firstUnknown ⟨front, back, hparts, hfront, hpart⟩] at h
      cases h
  · rintro ⟨masks, hmasks, rfl⟩
    exact ofChars_eq_ok (forall₂_means_iff.mpr hmasks)

/-- An accepted text has no characters besides those of its parts, the separator, and
blanks. -/
theorem mem_of_ofChars_eq_ok
    (h : ofChars text = .ok mask)
    {c : Char}
    (hc : c ∈ text) :
    isPartChar c.toLower = true ∨ c = '+' ∨ Text.isBlank c = true := by
  obtain ⟨masks, hmasks, -⟩ := ofChars_eq_ok_iff.mp h
  by_cases hplus : c = '+'
  · exact Or.inr (Or.inl hplus)
  · cases hblank : Text.isBlank c with
    | true => exact Or.inr (Or.inr rfl)
    | false =>
        obtain ⟨piece, hpiece, hmem⟩ := Text.mem_splitOn_of_mem hc hplus
        have hpart : Text.trim piece ∈ partsOf text := by
          rw [partsOf_eq]
          exact List.mem_map_of_mem hpiece
        obtain ⟨mask, -, hspells⟩ := Text.exists_mem_of_forall₂ hmasks hpart
        exact Or.inl (hspells.isPartChar c (Text.mem_trim_of_mem hmem hblank))

/-- The part that is reported is the first one that spells nothing. -/
theorem firstUnknown_iff
    {part : List Char} :
    FirstUnknown text part ↔
      ∃ front back,
        partsOf text = front ++ part :: back ∧
        (∀ known ∈ front, ∃ mask, Spells known mask) ∧ ∀ mask, ¬ Spells part mask := by
  refine exists_congr fun front => exists_congr fun back => and_congr_right fun hparts => ?_
  have hmem : ∀ known ∈ front ++ part :: back, ∀ mask, Means known mask ↔ Spells known mask := by
    intro known hknown mask
    rw [← hparts] at hknown
    exact means_iff_spells_of_mem hknown
  refine and_congr ?_ ?_
  · refine forall₂_congr fun known hknown => exists_congr fun mask => ?_
    exact hmem known (List.mem_append_left _ hknown) mask
  · rw [Option.eq_none_iff_forall_ne_some]
    exact forall_congr' fun mask => not_congr (hmem part (by simp) mask)

/-- Parts are read in the same way behind others. -/
theorem foldlM_addPart_or
    (parts : List (List Char))
    (mask start : Mask) :
    parts.foldlM addPart (mask ||| start) =
      (parts.foldlM addPart start).map (mask ||| ·) := by
  induction parts generalizing start with
  | nil => rfl
  | cons part parts ih =>
      rw [List.foldlM_cons, List.foldlM_cons]
      cases hpart : ofPart? part with
      | none =>
          simp only [addPart, hpart]
          rfl
      | some more =>
          simp only [addPart, hpart, or_assoc]
          exact ih (start ||| more)

/-- A text with a plus sign in it stands for what its two sides stand for. -/
theorem ofChars_append_plus
    (a b : List Char) :
    ofChars (a ++ '+' :: b) =
      (ofChars a).bind fun mask => (ofChars b).map (mask ||| ·) := by
  rw [ofChars, partsOf_append_plus, List.foldlM_append]
  refine congrArg (Except.bind (ofChars a)) (funext fun mask => ?_)
  have hrest := foldlM_addPart_or (partsOf b) mask empty
  rwa [or_empty] at hrest

/-- A part of blanks alone is no part. -/
theorem ofChars_blank
    (h : ∀ c ∈ text, Text.isBlank c = true) :
    ofChars text = .error ⟨""⟩ := by
  rw [ofChars, partsOf, Text.trim_eq_nil_of_blank h]
  rfl

/-- Two pieces of texts that differ in case and padding only. -/
def SamePiece (piece other : List Char) : Prop :=
  (Text.trim piece).map Char.toLower = (Text.trim other).map Char.toLower

/-- Each piece of the one text is found in the other, up to case and padding. -/
def PiecesAmong (text other : List Char) : Prop :=
  ∀ piece ∈ text.splitOn '+', ∃ like ∈ other.splitOn '+', SamePiece piece like

/-- Each part of the one text is read as one of the parts of the other, or as little. -/
theorem exists_like
    (h : PiecesAmong text other)
    {part : List Char}
    (hpart : part ∈ partsOf text) :
    ∃ like ∈ partsOf other, ∀ mask, Means part mask ↔ Means like mask := by
  have hspells : ∀ mask, Means part mask ↔ Spells part mask := fun mask =>
    means_iff_spells_of_mem hpart
  rw [partsOf_eq] at hpart
  obtain ⟨piece, hpiece, rfl⟩ := List.mem_map.mp hpart
  obtain ⟨like, hlike, hsame⟩ := h piece hpiece
  have hmem : Text.trim like ∈ partsOf other := by
    rw [partsOf_eq]
    exact List.mem_map_of_mem hlike
  refine ⟨Text.trim like, hmem, fun mask => ?_⟩
  rw [hspells mask, means_iff_spells_of_mem hmem]
  exact ⟨fun h => h.of_lower hsame, fun h => h.of_lower hsame.symm⟩

/-- What the parts of the one text stand for, the parts of the other do too. -/
theorem mem_of_piecesAmong
    {masks others : List Mask}
    (h : PiecesAmong text other)
    (hmasks : List.Forall₂ Means (partsOf text) masks)
    (hothers : List.Forall₂ Means (partsOf other) others)
    (hmem : mask ∈ masks) :
    mask ∈ others := by
  have hflip : List.Forall₂ (fun mask part => Means part mask) masks (partsOf text) := hmasks.flip
  obtain ⟨part, hpart, hmeans⟩ := Text.exists_mem_of_forall₂ hflip hmem
  obtain ⟨like, hlike, hsame⟩ := exists_like h hpart
  obtain ⟨more, hmore, hmeansMore⟩ := Text.exists_mem_of_forall₂ hothers hlike
  rw [← hsame more, Means, hmeans, Option.some.injEq] at hmeansMore
  exact hmeansMore ▸ hmore

/-- Pieces of an accepted text make up accepted texts only. -/
theorem exists_means_of_piecesAmong
    {masks : List Mask}
    (h : PiecesAmong other text)
    (hmasks : List.Forall₂ Means (partsOf text) masks) :
    ∃ others, List.Forall₂ Means (partsOf other) others := by
  rcases Text.forall₂_or_first Means (partsOf other) with
    hothers | ⟨front, part, back, hparts, -, hpart⟩
  · exact hothers
  · have hmem : part ∈ partsOf other := by
      rw [hparts]
      simp
    obtain ⟨like, hlike, hsame⟩ := exists_like h hmem
    obtain ⟨mask, -, hmeans⟩ := Text.exists_mem_of_forall₂ hmasks hlike
    exact absurd ((hsame mask).mpr hmeans) (hpart mask)

/-- Two texts with the same pieces, up to case, padding, order and repetition, stand for the
same mask. -/
theorem ofChars_of_piecesAmong
    (h : PiecesAmong text other)
    (hback : PiecesAmong other text)
    (hread : ofChars text = .ok mask) :
    ofChars other = .ok mask := by
  obtain ⟨masks, hspells, rfl⟩ := ofChars_eq_ok_iff.mp hread
  have hmasks := forall₂_means_iff.mpr hspells
  obtain ⟨others, hothers⟩ := exists_means_of_piecesAmong hback hmasks
  rw [ofChars_eq_ok hothers]
  refine congrArg Except.ok (foldl_or_congr fun mask => ?_)
  exact ⟨mem_of_piecesAmong hback hothers hmasks, mem_of_piecesAmong h hmasks hothers⟩

end Texts

section Strings

/-- A plus sign between two texts joins what they stand for. -/
theorem parse_append_plus
    (a b : String) :
    parse (a ++ "+" ++ b) = (parse a).bind fun mask => (parse b).map (mask ||| ·) := by
  have hplus : (a ++ "+" ++ b).toList = a.toList ++ '+' :: b.toList := by simp
  rw [parse, hplus, ofChars_append_plus]
  rfl

/-- Padding where a part should be is reported as the empty part. -/
theorem parse_of_blank
    {text : String}
    (h : ∀ c ∈ text.toList, Text.isBlank c = true) :
    parse text = .error ⟨""⟩ ∧
      (∀ back : String, parse (text ++ "+" ++ back) = .error ⟨""⟩) ∧
      ∀ (front : String) (mask : Mask),
        parse front = .ok mask →
        parse (front ++ "+" ++ text) = .error ⟨""⟩ ∧
          ∀ back : String, parse (front ++ "+" ++ text ++ "+" ++ back) = .error ⟨""⟩ := by
  have hblank : parse text = .error ⟨""⟩ := ofChars_blank h
  refine ⟨hblank, fun back => ?_, fun front mask hfront => ?_⟩
  · rw [parse_append_plus, hblank]
    rfl
  · have htrailing : parse (front ++ "+" ++ text) = .error ⟨""⟩ := by
      rw [parse_append_plus, hfront, hblank]
      rfl
    refine ⟨htrailing, fun back => ?_⟩
    rw [parse_append_plus, htrailing]
    rfl

/-- A text is accepted if each of its parts spells something, and stands for all of it
together; otherwise the first part that spells nothing is reported as it was written.  The
order, the repetition, the case and the padding of the parts of an accepted text make no
difference, an empty part is never accepted, and two accepted texts with a plus sign between
them are accepted and joined. -/
theorem parse_grammar
    (text : String) :
    (∀ mask : Mask,
      parse text = .ok mask ↔
        ∃ masks,
          List.Forall₂ Spells (partsOf text.toList) masks ∧
          mask = masks.foldl (· ||| ·) empty) ∧
    (∀ unknown : UnknownButton,
      parse text = .error unknown ↔
        ∃ front part back,
          partsOf text.toList = front ++ part :: back ∧
          (∀ known ∈ front, ∃ mask, Spells known mask) ∧
          (∀ mask, ¬ Spells part mask) ∧
          unknown = ⟨String.ofList part⟩) ∧
    (∀ other : String,
      PiecesAmong text.toList other.toList →
      PiecesAmong other.toList text.toList →
      ∀ mask : Mask, parse text = .ok mask ↔ parse other = .ok mask) ∧
    ((∀ c ∈ text.toList, Text.isBlank c = true) →
      parse text = .error ⟨""⟩ ∧
      (∀ back : String, parse (text ++ "+" ++ back) = .error ⟨""⟩) ∧
      ∀ (front : String) (mask : Mask),
        parse front = .ok mask →
        parse (front ++ "+" ++ text) = .error ⟨""⟩ ∧
          ∀ back : String, parse (front ++ "+" ++ text ++ "+" ++ back) = .error ⟨""⟩) ∧
    ∀ (other : String) (mask more : Mask),
      parse text = .ok mask →
      parse other = .ok more →
      parse (text ++ "+" ++ other) = .ok (mask ||| more) := by
  refine ⟨fun mask => ofChars_eq_ok_iff, fun unknown => ?_, ?_, parse_of_blank, ?_⟩
  · refine ofChars_eq_error_iff.trans ?_
    constructor
    · rintro ⟨part, hfirst, hunknown⟩
      obtain ⟨front, back, hparts, hfront, hpart⟩ := firstUnknown_iff.mp hfirst
      exact ⟨front, part, back, hparts, hfront, hpart, hunknown⟩
    · rintro ⟨front, part, back, hparts, hfront, hpart, hunknown⟩
      exact ⟨part, firstUnknown_iff.mpr ⟨front, back, hparts, hfront, hpart⟩, hunknown⟩
  · intro other h hback mask
    exact ⟨ofChars_of_piecesAmong h hback, ofChars_of_piecesAmong hback h⟩
  · intro other mask more htext hother
    rw [parse_append_plus, htext, hother]
    rfl

example :
    parse " left + 0X00010 + A " = .ok ⟨0x0111⟩ := by
  decide

end Strings
end Mask
end ButtonCombo
