import ButtonCombo.Proofs.KeyOverrides
import ButtonCombo.Proofs.MaskPrint
import ButtonCombo.Text.ByteOrder

/-!
# The keys that are listed for a button

A key is listed under a name, and the name is to stand for the same key when it is written
into a configuration.  That is not so for every key: a letter in upper case, or a blank that
is not the space, would be read as another key or as none.  But no such key is ever bound.
The keys of a configuration come from names, in lower case and without padding, and those
that are bound from the start are of the same kind.

A listing shows the keys that press exactly one button.  It depends on the bindings alone,
not on the order in which they are kept.

Main facts:

* `parse?_name_of_parse?`: a key that has a name has its listed name;
* `WellKeyed`: what holds of the bindings of every accepted map;
* `mem_keysFor_iff`, `pairwise_keysFor`, `keysFor_perm`: the listing of a button;
* `keysFor_faithful`: the listing of an accepted map.
-/

namespace ButtonCombo

namespace Key

/-- A letter in lower case is as visible as the letter was. -/
theorem isBlank_of_isBlank_toLower
    {c : Char}
    (h : Text.isBlank c.toLower = true) :
    Text.isBlank c = true := by
  cases hupper : c.isUpper with
  | false => rwa [Char.toLower_eq_of_not_isUpper (by simp [hupper])] at h
  | true =>
      exfalso
      have halpha : c.toLower.isAlpha = true := by
        rw [Char.isAlpha_toLower_eq_isAlpha, Char.isAlpha, hupper, Bool.true_or]
      have hpart : Mask.isPartChar c.toLower = true := by
        rw [Mask.isPartChar, Char.isAlphanum, halpha, Bool.true_or, Bool.true_or]
      rw [Mask.isBlank_of_isPartChar hpart] at h
      cases h

/-- Trimming leaves no blank by itself. -/
theorem not_isBlank_of_trim
    {cs : List Char}
    {c : Char}
    (h : Text.trim cs = [c]) :
    Text.isBlank c = false := by
  rw [Bool.eq_false_iff]
  intro hblank
  have hnil : Text.trim [c] = [] := Text.trim_eq_nil_of_blank (by simpa using hblank)
  rw [← h, Text.trim_trim, h] at hnil
  cases hnil

/-- A character that a name stands for is listed under itself. -/
theorem parse?_singleton
    {c : Char}
    (hblank : Text.isBlank c = false)
    (hlower : c.toLower = c)
    (hword : words.lookup (String.ofList [c]) = none) :
    parse? (char c).name = some (char c) := by
  have hspace : c ≠ ' ' := by
    rintro rfl
    cases hblank
  have hname : (char c).name.toList = [c] := by
    rw [name, if_neg hspace, String.toList_singleton]
  have htrim : Text.trim [c] = [c] := Text.trim_of_visible (by simpa using hblank)
  rw [parse?, hname, htrim, List.map_singleton, hlower, ofLower?, hword]

/-- The words are the listed names of their keys, or other names of them. -/
theorem parse?_name_of_lookup
    {text : String}
    {key : Key}
    (h : words.lookup text = some key) :
    parse? key.name = some key := by
  have hwords : ∀ word ∈ words, parse? word.2.name = some word.2 := by decide
  have hmem : (text, key) ∈ words := by
    obtain ⟨before, after, hsplit, -⟩ := List.lookup_eq_some_iff.mp h
    rw [hsplit]
    exact List.mem_append_right before List.mem_cons_self
  exact hwords (text, key) hmem

/-- **A key that has a name has its listed name.** -/
theorem parse?_name_of_parse?
    {text : String}
    {key : Key}
    (h : parse? text = some key) :
    parse? key.name = some key := by
  unfold parse? ofLower? at h
  split at h
  · rename_i found hlookup
    cases h
    exact parse?_name_of_lookup hlookup
  · rename_i hword
    split at h
    · rename_i c hlower
      cases h
      obtain ⟨d, htrim, rfl⟩ := List.map_eq_singleton_iff.mp hlower
      rw [hlower] at hword
      refine parse?_singleton ?_ (Char.toLower_toLower_eq_toLower d) hword
      rw [Bool.eq_false_iff]
      intro hblank
      have hd := isBlank_of_isBlank_toLower hblank
      rw [not_isBlank_of_trim htrim] at hd
      cases hd
    · cases h

end Key

namespace Mask

theorem ofButton_ne_empty
    (button : Button) :
    ofButton button ≠ empty := by
  cases button <;> decide

theorem unnamed_ofButton
    (button : Button) :
    (ofButton button).unnamed = empty := by
  cases button <;> decide

/-- The mask of a button has no two bits. -/
theorem eq_of_getLsbD_ofButton
    {button : Button}
    {i j : Nat}
    (hi : (ofButton button).bits.getLsbD i = true)
    (hj : (ofButton button).bits.getLsbD j = true) :
    i = j := by
  obtain ⟨k, hk⟩ := button.exists_bit_eq
  rw [ofButton, hk, BitVec.getLsbD_twoPow, Bool.and_eq_true, decide_eq_true_eq,
    decide_eq_true_eq] at hi hj
  exact hi.2.symm.trans hj.2

/-- The mask is empty, has a bit that no button has, or has two bits. -/
def Unlisted (mask : Mask) : Prop :=
  mask = empty ∨ mask.unnamed ≠ empty ∨
    ∃ i j, i ≠ j ∧ mask.bits.getLsbD i = true ∧ mask.bits.getLsbD j = true

theorem not_unlisted_ofButton
    (button : Button) :
    ¬ (ofButton button).Unlisted := by
  rintro (hempty | hunnamed | ⟨i, j, hne, hi, hj⟩)
  · exact ofButton_ne_empty button hempty
  · exact hunnamed (unnamed_ofButton button)
  · exact hne (eq_of_getLsbD_ofButton hi hj)

end Mask

namespace KeyMap

/-- Every key is bound once, has its listed name, and does not quit. -/
structure WellKeyed (map : KeyMap) : Prop where
  nodup : (map.bindings.map Prod.fst).Nodup
  parse_name : ∀ key ∈ map.bindings.map Prod.fst, Key.parse? key.name = some key
  not_quit : ∀ key ∈ map.bindings.map Prod.fst, key.isQuit = false

namespace WellKeyed

theorem default :
    WellKeyed .default :=
  ⟨by decide, by decide, by decide⟩

variable {map : KeyMap}

theorem mem_bind
    {key other : Key}
    {mask : Mask}
    (h : other ∈ (map.bind key mask).bindings.map Prod.fst) :
    other = key ∨ other ∈ map.bindings.map Prod.fst := by
  obtain ⟨binding, hbinding, rfl⟩ := List.mem_map.mp h
  rcases List.mem_cons.mp hbinding with rfl | hkept
  · exact Or.inl rfl
  · exact Or.inr (List.mem_map_of_mem (List.mem_of_mem_filter hkept))

theorem bind
    (h : WellKeyed map)
    {name : String}
    {key : Key}
    (hname : Key.parse? name = some key)
    (hquit : key.isQuit = false)
    (mask : Mask) :
    WellKeyed (map.bind key mask) := by
  refine ⟨?_, ?_, ?_⟩
  · refine List.nodup_cons.mpr ⟨?_, ?_⟩
    · intro hmem
      obtain ⟨binding, hkept, hkey⟩ := List.mem_map.mp hmem
      simp [hkey] at hkept
    · exact h.nodup.sublist (List.filter_sublist.map Prod.fst)
  · intro other hother
    rcases mem_bind hother with rfl | hkept
    · exact Key.parse?_name_of_parse? hname
    · exact h.parse_name other hkept
  · intro other hother
    rcases mem_bind hother with rfl | hkept
    · exact hquit
    · exact h.not_quit other hkept

theorem bindAll
    (h : WellKeyed map)
    {entries : List (String × Mask)}
    {final : KeyMap}
    (hfinal : map.bindAll entries = .ok final) :
    WellKeyed final := by
  induction entries generalizing map with
  | nil =>
      cases hfinal
      exact h
  | cons entry rest ih =>
      obtain ⟨name, mask⟩ := entry
      rw [KeyMap.bindAll, List.foldlM_cons] at hfinal
      rcases bindable_or_refused name with ⟨key, hkey, hquit⟩ | ⟨error, hrefused⟩
      · rw [bindName_of_parse? hkey hquit] at hfinal
        exact ih (h.bind hkey hquit mask) hfinal
      · rw [bindName_of_refused hrefused] at hfinal
        cases hfinal

end WellKeyed

section Listing

/-- The names that are listed for a button. -/
theorem mem_keysFor_iff
    {map : KeyMap}
    {button : Button}
    {name : String} :
    name ∈ map.keysFor button ↔
      ∃ key, (key, Mask.ofButton button) ∈ map.bindings ∧ name = key.name := by
  rw [keysFor, List.mem_mergeSort, List.mem_map]
  constructor
  · rintro ⟨⟨key, mask⟩, hbinding, rfl⟩
    obtain ⟨hmem, hsingle⟩ := List.mem_filter.mp hbinding
    rw [beq_iff_eq, Mask.single?_eq_some_iff] at hsingle
    cases hsingle
    exact ⟨key, hmem, rfl⟩
  · rintro ⟨key, hmem, rfl⟩
    refine ⟨(key, Mask.ofButton button), List.mem_filter.mpr ⟨hmem, ?_⟩, rfl⟩
    rw [beq_iff_eq, Mask.single?_eq_some_iff]

theorem pairwise_le_keysFor
    (map : KeyMap)
    (button : Button) :
    (map.keysFor button).Pairwise (· ≤ ·) := by
  refine (List.pairwise_mergeSort ?_ ?_ _).imp (fun h => of_decide_eq_true h)
  · intro a b c hab hbc
    exact decide_eq_true (String.le_trans (of_decide_eq_true hab) (of_decide_eq_true hbc))
  · intro a b
    simpa using String.le_total a b

/-- The order in which the bindings are kept makes no difference. -/
theorem keysFor_perm
    {map other : KeyMap}
    (h : other.bindings.Perm map.bindings)
    (button : Button) :
    other.keysFor button = map.keysFor button := by
  refine List.Perm.eq_of_pairwise (fun a b _ _ => String.le_antisymm)
    (other.pairwise_le_keysFor button) (map.pairwise_le_keysFor button) ?_
  have hnames := (h.filter (·.2.single? == some button)).map (·.1.name)
  exact (List.mergeSort_perm _ _).trans (hnames.trans (List.mergeSort_perm _ _).symm)

end Listing

namespace WellKeyed

variable {map : KeyMap} {key other : Key} {mask : Mask} {button : Button}

theorem get?_eq_some_iff
    (h : WellKeyed map) :
    map.get? key = some mask ↔ (key, mask) ∈ map.bindings := by
  rw [get?, List.lookup_eq_some_iff]
  constructor
  · rintro ⟨before, after, hsplit, -⟩
    rw [hsplit]
    exact List.mem_append_right before List.mem_cons_self
  · intro hmem
    obtain ⟨before, after, hsplit⟩ := List.append_of_mem hmem
    refine ⟨before, after, hsplit, ?_⟩
    have hnodup := h.nodup
    rw [hsplit, List.map_append, List.nodup_append] at hnodup
    intro binding hbinding
    have hne := hnodup.2.2 binding.1 (List.mem_map_of_mem hbinding) key List.mem_cons_self
    simpa using Ne.symm hne

/-- Bound keys are told apart by their listed names. -/
theorem name_injective
    (h : WellKeyed map)
    (hkey : key ∈ map.bindings.map Prod.fst)
    (hother : other ∈ map.bindings.map Prod.fst)
    (hname : key.name = other.name) :
    key = other := by
  have hparse := h.parse_name key hkey
  rw [hname, h.parse_name other hother] at hparse
  exact (Option.some.inj hparse).symm

/-- The names of a button stand in strictly increasing order. -/
theorem pairwise_keysFor
    (h : WellKeyed map)
    (button : Button) :
    (map.keysFor button).Pairwise (· < ·) := by
  have hnodup : (map.keysFor button).Nodup := by
    rw [keysFor, (List.mergeSort_perm _ _).nodup_iff]
    have hkeys : ((map.bindings.filter (·.2.single? == some button)).map Prod.fst).Nodup :=
      h.nodup.sublist (List.filter_sublist.map Prod.fst)
    have hnames := hkeys.map_on (f := Key.name) fun key hkey other hother =>
      h.name_injective ((List.filter_sublist.map Prod.fst).subset hkey)
        ((List.filter_sublist.map Prod.fst).subset hother)
    rwa [List.map_map] at hnames
  exact ((map.pairwise_le_keysFor button).and hnodup).imp
    fun hboth => Std.lt_of_le_of_ne hboth.1 hboth.2

/-- A listed name can be bound, and stands for the key that is listed under it. -/
theorem exists_key_of_mem_keysFor
    (h : WellKeyed map)
    {name : String}
    (hname : name ∈ map.keysFor button) :
    ∃ key, Key.parse? name = some key ∧ map.get? key = some (.ofButton button) ∧
      ∀ (other : KeyMap) (mask : Mask), other.bindName name mask = .ok (other.bind key mask) := by
  obtain ⟨key, hmem, rfl⟩ := mem_keysFor_iff.mp hname
  have hkey : key ∈ map.bindings.map Prod.fst := List.mem_map.mpr ⟨_, hmem, rfl⟩
  exact ⟨key, h.parse_name key hkey, h.get?_eq_some_iff.mpr hmem,
    bindName_of_parse? (h.parse_name key hkey) (h.not_quit key hkey)⟩

/-- The name of a key is listed for the button that the key presses, and for no other. -/
theorem name_mem_keysFor_iff
    (h : WellKeyed map)
    (hkey : map.get? key = some mask) :
    key.name ∈ map.keysFor button ↔ mask = .ofButton button := by
  rw [h.get?_eq_some_iff] at hkey
  constructor
  · intro hname
    obtain ⟨other, hmem, hsame⟩ := mem_keysFor_iff.mp hname
    cases h.name_injective (List.mem_map.mpr ⟨_, hkey, rfl⟩) (List.mem_map.mpr ⟨_, hmem, rfl⟩)
      hsame
    rw [← h.get?_eq_some_iff] at hkey hmem
    rw [hkey] at hmem
    exact Option.some.inj hmem
  · rintro rfl
    exact mem_keysFor_iff.mpr ⟨key, hkey, rfl⟩

end WellKeyed

/-- **The listing is faithful.**  In a map that is accepted the keys of a button are listed
in strictly increasing order of their bytes, whatever the order of the bindings.  They are
the listed names of exactly those keys that press this button and nothing else.  The listed
name of a bound key stands for that key, so it can be written back into a configuration, and
no two bound keys have the same one.  No key is listed under two buttons, and a key of an
empty mask, of a chord or of a bit without a button is listed under none. -/
theorem keysFor_faithful
    {overrides : NameMap Mask}
    {map : KeyMap}
    (hmap : withOverrides overrides = .ok map) :
    (∀ button, (map.keysFor button).Pairwise (Text.bytes · < Text.bytes ·)) ∧
    (∀ other : KeyMap, other.bindings.Perm map.bindings →
      ∀ button, other.keysFor button = map.keysFor button) ∧
    (∀ button name, name ∈ map.keysFor button ↔
      ∃ key, map.get? key = some (.ofButton button) ∧ name = key.name) ∧
    (∀ key mask, map.get? key = some mask → Key.parse? key.name = some key) ∧
    (∀ button name, name ∈ map.keysFor button →
      ∃ key, Key.parse? name = some key ∧ map.get? key = some (.ofButton button) ∧
        ∀ (other : KeyMap) (mask : Mask),
          other.bindName name mask = .ok (other.bind key mask)) ∧
    (∀ key other mask value, map.get? key = some mask → map.get? other = some value →
      key.name = other.name → key = other) ∧
    (∀ button other name, name ∈ map.keysFor button → name ∈ map.keysFor other →
      button = other) ∧
    ∀ key mask, map.get? key = some mask → mask.Unlisted →
      ∀ button, key.name ∉ map.keysFor button := by
  have h : WellKeyed map := WellKeyed.default.bindAll hmap
  have hbound : ∀ key mask, map.get? key = some mask → key ∈ map.bindings.map Prod.fst :=
    fun key mask hkey => List.mem_map.mpr ⟨_, h.get?_eq_some_iff.mp hkey, rfl⟩
  refine ⟨fun button => (h.pairwise_keysFor button).imp Text.bytes_lt_iff.mpr,
    fun other => keysFor_perm, ?_, ?_, ?_, ?_, ?_, ?_⟩
  · intro button name
    simp only [mem_keysFor_iff, h.get?_eq_some_iff]
  · exact fun key mask hkey => h.parse_name key (hbound key mask hkey)
  · exact fun button name => h.exists_key_of_mem_keysFor
  · intro key other mask value hkey hother
    exact h.name_injective (hbound key mask hkey) (hbound other value hother)
  · intro button other name hbutton hother
    obtain ⟨key, hparse, hkey, -⟩ := h.exists_key_of_mem_keysFor hbutton
    obtain ⟨same, hsame, hvalue, -⟩ := h.exists_key_of_mem_keysFor hother
    rw [hparse] at hsame
    cases hsame
    rw [hkey] at hvalue
    exact Button.bit_injective (congrArg Mask.bits (Option.some.inj hvalue))
  · intro key mask hkey hunlisted button hname
    rw [h.name_mem_keysFor_iff hkey] at hname
    subst hname
    exact Mask.not_unlisted_ofButton button hunlisted

/-- Another name of enter, a padded letter beyond ASCII, and a chord on the space key. -/
theorem keysFor_faithful_alias :
    ∃ map,
      withOverrides (.ofList [("return", .ofButton .a), (" É ", .ofButton .a),
        ("Space", .ofButton .a ||| .ofButton .b)]) = .ok map ∧
      "enter" ∈ map.keysFor .a ∧ "É" ∈ map.keysFor .a ∧ "enter" ∉ map.keysFor .start ∧
      "space" ∉ map.keysFor .a := by
  have hmap : withOverrides (.ofList [("return", .ofButton .a), (" É ", .ofButton .a),
      ("Space", .ofButton .a ||| .ofButton .b)]) =
        .ok (((default.bind (.char 'É') (.ofButton .a)).bind (.char ' ')
          (.ofButton .a ||| .ofButton .b)).bind .enter (.ofButton .a)) := by
    cbv
  obtain ⟨-, -, hmem, -, -, -, hone, hnone⟩ := keysFor_faithful hmap
  have henter := (hmem .a "enter").mpr ⟨.enter, rfl, rfl⟩
  refine ⟨_, hmap, henter, (hmem .a "É").mpr ⟨.char 'É', rfl, rfl⟩, ?_, ?_⟩
  · intro hstart
    exact absurd (hone _ _ _ henter hstart) (by decide)
  · exact hnone (.char ' ') _ rfl (Or.inr (Or.inr ⟨8, 9, by decide⟩)) .a

end KeyMap
end ButtonCombo
