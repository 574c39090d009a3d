import ButtonCombo.KeyMap
import ButtonCombo.Proofs.NameEntries
import ButtonCombo.Text.ByteOrder
import Mathlib

/-!
# Key bindings of a configuration

A configuration binds keys by name, and the names are taken up in order.  A name that
cannot be bound ends it; the first such name is reported.  Otherwise the last name of a
key decides what the key presses, and a key without a name keeps its default.  A key that
quits has no name that can be bound, and none is bound by default.

Main facts:

* `Refused`, `Bindable`: every name is one or the other;
* `bindAll_ok`, `bindAll_error`: what comes of a list of entries;
* `claim?_of_sorted`: the last name of a key is the greatest one;
* `withOverrides_meaning`: the map of a configuration.
-/

namespace ButtonCombo

namespace Key

/-- A key that has a name is in lower case. -/
theorem fold_of_parse?
    {name : String}
    {key : Key}
    (h : parse? name = some key) :
    key.fold = key := by
  have hwords : ∀ word ∈ words, word.2.fold = word.2 := by decide
  unfold parse? ofLower? at h
  split at h
  · rename_i found hlookup
    cases h
    obtain ⟨before, after, hsplit, -⟩ := List.lookup_eq_some_iff.mp hlookup
    rw [hsplit] at hwords
    exact hwords _ (List.mem_append_right before List.mem_cons_self)
  · split at h
    · rename_i c hlower
      cases h
      have hc : c ∈ (Text.trim name.toList).map Char.toLower := by
        rw [hlower]
        exact List.mem_singleton_self c
      obtain ⟨d, -, rfl⟩ := List.mem_map.mp hc
      rw [fold, Char.toLower_toLower_eq_toLower]
    · cases h

/-- The keys that quit are escape and the letter q in either case. -/
theorem isQuit_iff
    {key : Key} :
    key.isQuit = true ↔ key ∈ [esc, char 'q', char 'Q'] := by
  cases key <;> simp [isQuit]

/-- The case of a letter does not hide that it quits. -/
theorem isQuit_fold
    {key : Key}
    (h : key.isQuit = true) :
    key.fold.isQuit = true := by
  cases key with
  | esc => rfl
  | char c =>
      simp only [isQuit, Bool.or_eq_true, decide_eq_true_eq] at h
      rcases h with rfl | rfl <;> rfl
  | _ => cases h

end Key

namespace KeyMap

/-- No key that quits is bound from the start. -/
theorem get?_default_of_isQuit
    {key : Key}
    (h : key.isQuit = true) :
    KeyMap.default.get? key = none := by
  cases key with
  | esc => rfl
  | char c =>
      simp only [Key.isQuit, Bool.or_eq_true, decide_eq_true_eq] at h
      rcases h with rfl | rfl <;> rfl
  | _ => cases h

/-- The name stands for a key that may be bound. -/
def Bindable (name : String) : Prop :=
  ∃ key, Key.parse? name = some key ∧ key.isQuit = false

/-- The keys that may be bound are all but escape and the letter q. -/
theorem bindable_iff
    {name : String} :
    Bindable name ↔ ∃ key ∉ [Key.esc, .char 'q', .char 'Q'], Key.parse? name = some key := by
  simp only [Bindable, ← Key.isQuit_iff, Bool.not_eq_true, and_comm]

/-- The name is refused: it names no key, or a key that quits. -/
inductive Refused (name : String) : Error → Prop
  | unknown (h : Key.parse? name = none) : Refused name (.unknownKey name)
  | reserved {key : Key} (h : Key.parse? name = some key) (hquit : key.isQuit = true) :
      Refused name (.reservedKey name)

theorem bindable_or_refused
    (name : String) :
    Bindable name ∨ ∃ error, Refused name error := by
  cases h : Key.parse? name with
  | none => exact Or.inr ⟨_, .unknown h⟩
  | some key =>
      cases hquit : key.isQuit with
      | false => exact Or.inl ⟨key, h, hquit⟩
      | true => exact Or.inr ⟨_, .reserved h hquit⟩

/-- The report about a refused name, in words. -/
theorem refused_iff
    {name : String}
    {error : Error} :
    Refused name error ↔
      (Key.parse? name = none ∧ error = .unknownKey name ∧
        error.message = "Unknown key name '" ++ name ++ "'") ∨
      ((∃ key, Key.parse? name = some key ∧ key.isQuit = true) ∧ error = .reservedKey name ∧
        error.message = "Key '" ++ name ++ "' is reserved for quitting") := by
  constructor
  · rintro (hnone | ⟨hkey, hquit⟩)
    · exact Or.inl ⟨hnone, rfl, rfl⟩
    · exact Or.inr ⟨⟨_, hkey, hquit⟩, rfl, rfl⟩
  · rintro (⟨hnone, rfl, -⟩ | ⟨⟨key, hkey, hquit⟩, rfl, -⟩)
    · exact .unknown hnone
    · exact .reserved hkey hquit

/-- A name is refused if it names no key or one that quits. -/
theorem exists_refused_iff
    {name : String} :
    (∃ error, Refused name error) ↔
      Key.parse? name = none ∨ ∃ key, Key.parse? name = some key ∧ key.isQuit = true := by
  simp only [refused_iff]
  constructor
  · rintro ⟨error, ⟨hnone, -⟩ | ⟨hquit, -⟩⟩
    · exact Or.inl hnone
    · exact Or.inr hquit
  · rintro (hnone | hquit)
    · exact ⟨_, Or.inl ⟨hnone, rfl, rfl⟩⟩
    · exact ⟨_, Or.inr ⟨hquit, rfl, rfl⟩⟩

theorem Refused.not_bindable
    {name : String}
    {error : Error}
    (h : Refused name error) :
    ¬ Bindable name := by
  rintro ⟨key, hkey, hquit⟩
  cases h with
  | unknown hnone =>
      rw [hnone] at hkey
      cases hkey
  | reserved hother hreserved =>
      rw [hother] at hkey
      cases hkey
      rw [hreserved] at hquit
      cases hquit

theorem Refused.unique
    {name : String}
    {error other : Error}
    (h : Refused name error)
    (hother : Refused name other) :
    error = other := by
  cases h with
  | unknown hnone =>
      cases hother with
      | unknown => rfl
      | reserved hkey =>
          rw [hnone] at hkey
          cases hkey
  | reserved hkey =>
      cases hother with
      | unknown hnone =>
          rw [hnone] at hkey
          cases hkey
      | reserved => rfl

theorem bindName_of_refused
    {name : String}
    {error : Error}
    (h : Refused name error)
    (map : KeyMap)
    (mask : Mask) :
    map.bindName name mask = .error error := by
  cases h with
  | unknown hnone => simp only [bindName, hnone]
  | reserved hkey hquit => simp only [bindName, hkey, hquit, if_true]

theorem bindName_of_parse?
    {name : String}
    {key : Key}
    (h : Key.parse? name = some key)
    (hquit : key.isQuit = false)
    (map : KeyMap)
    (mask : Mask) :
    map.bindName name mask = .ok (map.bind key mask) := by
  simp only [bindName, h, hquit, Bool.false_eq_true, if_false]

/-- The mask of the last entry that names the key. -/
def claim? (key : Key) : List (String × Mask) → Option Mask
  | [] => none
  | (name, mask) :: rest =>
      (claim? key rest).or (if Key.parse? name = some key then some mask else none)

/-- Take up the entries in order. -/
def bindAll
    (map : KeyMap)
    (entries : List (String × Mask)) : Except Error KeyMap :=
  entries.foldlM (fun map entry => map.bindName entry.1 entry.2) map

section Entries

variable {entries : List (String × Mask)}

/-- Entries whose names can be bound are all taken up, and the last one of a key counts. -/
theorem bindAll_ok
    (h : ∀ entry ∈ entries, Bindable entry.1)
    (map : KeyMap) :
    ∃ final, map.bindAll entries = .ok final ∧
      ∀ key, final.get? key = (claim? key entries).or (map.get? key) := by
  induction entries generalizing map with
  | nil => exact ⟨map, rfl, fun key => rfl⟩
  | cons entry rest ih =>
      obtain ⟨name, mask⟩ := entry
      obtain ⟨named, hparse, hquit⟩ := h _ List.mem_cons_self
      obtain ⟨final, hfinal, hget⟩ :=
        ih (fun later hlater => h later (List.mem_cons_of_mem _ hlater)) (map.bind named mask)
      refine ⟨final, ?_, ?_⟩
      · rw [bindAll, List.foldlM_cons, bindName_of_parse? hparse hquit]
        exact hfinal
      · intro key
        rw [hget, get?_bind, claim?, hparse]
        by_cases hkey : key = named
        · simp [hkey]
        · simp [hkey, Ne.symm hkey]

/-- The first name that cannot be bound is reported, whatever comes after it. -/
theorem bindAll_error
    {before after : List (String × Mask)}
    {name : String}
    {mask : Mask}
    {error : Error}
    (hbefore : ∀ entry ∈ before, Bindable entry.1)
    (hname : Refused name error)
    (map : KeyMap) :
    map.bindAll (before ++ (name, mask) :: after) = .error error := by
  obtain ⟨middle, hmiddle, -⟩ := bindAll_ok hbefore map
  rw [bindAll] at hmiddle
  rw [bindAll, List.foldlM_append, hmiddle]
  have hstep := bindName_of_refused hname middle mask
  simp only [Bind.bind, Except.bind, List.foldlM_cons, hstep]

/-- Either every name can be bound, or one of them is the first that cannot. -/
theorem bindable_or_first_refused
    (entries : List (String × Mask)) :
    (∀ entry ∈ entries, Bindable entry.1) ∨
      ∃ before name mask after error,
        entries = before ++ (name, mask) :: after ∧
        (∀ entry ∈ before, Bindable entry.1) ∧
        Refused name error := by
  induction entries with
  | nil => exact Or.inl (by simp)
  | cons entry rest ih =>
      obtain ⟨name, mask⟩ := entry
      rcases bindable_or_refused name with hname | ⟨error, hname⟩
      · rcases ih with hrest | ⟨before, other, value, after, error, rfl, hbefore, hother⟩
        · exact Or.inl (List.forall_mem_cons.mpr ⟨hname, hrest⟩)
        · exact Or.inr ⟨(name, mask) :: before, other, value, after, error, rfl,
            List.forall_mem_cons.mpr ⟨hname, hbefore⟩, hother⟩
      · exact Or.inr ⟨[], name, mask, rest, error, rfl, by simp, hname⟩

theorem claim?_eq_none
    {key : Key}
    (h : ∀ entry ∈ entries, Key.parse? entry.1 ≠ some key) :
    claim? key entries = none := by
  induction entries with
  | nil => rfl
  | cons entry rest ih =>
      obtain ⟨hentry, hrest⟩ := List.forall_mem_cons.mp h
      rw [claim?, ih hrest, if_neg hentry]
      rfl

/-- Among entries in order the greatest name of a key is the last one. -/
theorem claim?_of_sorted
    (hsorted : SortedNames entries)
    {key : Key}
    {name : String}
    {mask : Mask}
    (hmem : (name, mask) ∈ entries)
    (hname : Key.parse? name = some key)
    (hgreatest : ∀ entry ∈ entries, Key.parse? entry.1 = some key → entry.1 ≤ name) :
    claim? key entries = some mask := by
  induction entries with
  | nil => cases hmem
  | cons entry rest ih =>
      obtain ⟨hhead, htail⟩ := List.pairwise_cons.mp hsorted
      obtain ⟨hentry, hrest⟩ := List.forall_mem_cons.mp hgreatest
      rcases List.mem_cons.mp hmem with rfl | hlater
      · have hnone : claim? key rest = none := by
          refine claim?_eq_none ?_
          intro later hlater hparse
          exact String.not_lt.mpr (hrest later hlater hparse) (hhead later hlater)
        rw [claim?, hnone, if_pos hname]
        rfl
      · rw [claim?, ih htail hlater hrest]
        rfl

end Entries

/-- In front of an entry stand exactly the entries of smaller names. -/
theorem mem_front_of_lt
    {before after : List (String × Mask)}
    {name other : String}
    {mask value : Mask}
    (hsorted : SortedNames (before ++ (name, mask) :: after))
    (hmem : (other, value) ∈ before ++ (name, mask) :: after)
    (hlt : other < name) :
    (other, value) ∈ before := by
  rcases List.mem_append.mp hmem with hbefore | hrest
  · exact hbefore
  · exfalso
    obtain ⟨-, hrestSorted, -⟩ := List.pairwise_append.mp hsorted
    rcases List.mem_cons.mp hrest with heq | hafter
    · cases heq
      exact String.lt_irrefl name hlt
    · have hgt : name < other := (List.pairwise_cons.mp hrestSorted).1 _ hafter
      exact String.lt_irrefl name (String.lt_trans hgt hlt)

section Overrides

variable {overrides : NameMap Mask}

/-- The first name that cannot be bound is reported. -/
theorem withOverrides_eq_error_iff
    {error : Error} :
    withOverrides overrides = .error error ↔
      ∃ name mask, overrides.get? name = some mask ∧ Refused name error ∧
        ∀ other value, overrides.get? other = some value → other < name → Bindable other := by
  have hrun : withOverrides overrides = default.bindAll overrides.entries := rfl
  have hsorted := overrides.sorted
  simp only [NameMap.get?_eq_some_iff, hrun]
  rcases bindable_or_first_refused overrides.entries with
    hall | ⟨before, first, value, after, reported, hsplit, hbefore, hfirst⟩
  · -- then nothing is reported, and nothing has to be
    obtain ⟨final, hfinal, -⟩ := bindAll_ok hall default
    rw [hfinal]
    constructor
    · intro h
      cases h
    · rintro ⟨name, mask, hmem, hname, -⟩
      exact absurd (hall (name, mask) hmem) hname.not_bindable
  · rw [hsplit] at hsorted ⊢
    rw [bindAll_error hbefore hfirst default]
    constructor
    · intro h
      cases h
      refine ⟨first, value, List.mem_append_right _ List.mem_cons_self, hfirst, ?_⟩
      intro other mask hmem hlt
      exact hbefore (other, mask) (mem_front_of_lt hsorted hmem hlt)
    · rintro ⟨name, mask, hmem, hname, hsmaller⟩
      -- the name is the first one that cannot be bound, neither smaller nor greater
      have hle : first ≤ name := by
        refine String.not_lt.mp fun hlt => ?_
        exact hname.not_bindable (hbefore (name, mask) (mem_front_of_lt hsorted hmem hlt))
      have hge : name ≤ first := by
        refine String.not_lt.mp fun hlt => ?_
        exact hfirst.not_bindable
          (hsmaller first value (List.mem_append_right _ List.mem_cons_self) hlt)
      cases String.le_antisymm hle hge
      rw [hfirst.unique hname]

/-- In a map that is accepted all names can be bound, and the last one of a key counts. -/
theorem withOverrides_eq_ok
    {map : KeyMap}
    (h : withOverrides overrides = .ok map) :
    (∀ name mask, overrides.get? name = some mask → Bindable name) ∧
      ∀ key, map.get? key = (claim? key overrides.entries).or (default.get? key) := by
  have hrun : default.bindAll overrides.entries = .ok map := h
  rcases bindable_or_first_refused overrides.entries with
    hall | ⟨before, first, value, after, reported, hsplit, hbefore, hfirst⟩
  · obtain ⟨final, hfinal, hget⟩ := bindAll_ok hall default
    rw [hrun] at hfinal
    cases hfinal
    exact ⟨fun name mask hbound => hall (name, mask) (NameMap.get?_eq_some_iff.mp hbound), hget⟩
  · rw [hsplit, bindAll_error hbefore hfirst default] at hrun
    cases hrun

end Overrides

/-- The greatest of the names that a configuration uses for the key, in the order of their
bytes, binds it to the mask. -/
structure Claims
    (overrides : NameMap Mask)
    (key : Key)
    (name : String)
    (mask : Mask) : Prop where
  bound : overrides.get? name = some mask
  names : Key.parse? name = some key
  greatest : ∀ other value, overrides.get? other = some value →
    Key.parse? other = some key → other ≠ name → Text.bytes other < Text.bytes name

section Lookups

variable {overrides : NameMap Mask} {map : KeyMap}

/-- The key is bound as the greatest of its names says. -/
theorem get?_of_claims
    (hmap : withOverrides overrides = .ok map)
    {key : Key}
    {name : String}
    {mask : Mask}
    (h : Claims overrides key name mask) :
    map.get? key = some mask := by
  rw [(withOverrides_eq_ok hmap).2,
    claim?_of_sorted overrides.sorted (NameMap.get?_eq_some_iff.mp h.bound) h.names]
  · rfl
  · rintro ⟨other, value⟩ hmem hparse
    by_cases hother : other = name
    · exact hother.le
    · have hbound := NameMap.get?_eq_some_iff.mpr hmem
      exact (Text.bytes_lt_iff.mp (h.greatest other value hbound hparse hother)).le

/-- A key that no name stands for is bound as it is from the start. -/
theorem get?_of_unnamed
    (hmap : withOverrides overrides = .ok map)
    {key : Key}
    (h : ∀ name mask, overrides.get? name = some mask → Key.parse? name ≠ some key) :
    map.get? key = default.get? key := by
  rw [(withOverrides_eq_ok hmap).2, claim?_eq_none]
  · rfl
  · rintro ⟨name, mask⟩ hmem
    exact h name mask (NameMap.get?_eq_some_iff.mpr hmem)

/-- A key that quits is not bound, in either case of its letter. -/
theorem lookup_of_isQuit
    (hmap : withOverrides overrides = .ok map)
    {key : Key}
    (hquit : key.isQuit = true)
    (modifiers : List Modifier) :
    map.lookup ⟨key, modifiers⟩ = none := by
  have hfold := Key.isQuit_fold hquit
  rw [lookup, get?_of_unnamed hmap, get?_default_of_isQuit hfold]
  intro name mask hbound hparse
  obtain ⟨named, hnamed, hfree⟩ := (withOverrides_eq_ok hmap).1 name mask hbound
  rw [hparse] at hnamed
  cases hnamed
  rw [hfold] at hfree
  cases hfree

end Lookups

/-- **The key map of a configuration.**  It is refused exactly if some name stands for no key
or for escape or the letter q, and the first of these names is reported, in the order of
their bytes.  Otherwise an event presses the mask of the greatest name of its key, or else
what is bound by default; of a character the key is the one of its lower case.  Every name
that is the greatest of its key is reached by the events of this very key, and neither escape
nor the letter q presses anything.  Neither the modifiers of an event nor the case of its
letter make a difference, and neither does the order in which the configuration is written
down. -/
theorem withOverrides_meaning
    (overrides : NameMap Mask) :
    let quitting : List Key := [.esc, .char 'q', .char 'Q']
    ((∃ error, withOverrides overrides = .error error) ↔
      ∃ name mask, overrides.get? name = some mask ∧
        (Key.parse? name = none ∨ ∃ key ∈ quitting, Key.parse? name = some key)) ∧
    (∀ error, withOverrides overrides = .error error ↔
      ∃ name mask, overrides.get? name = some mask ∧
        ((Key.parse? name = none ∧ error = .unknownKey name ∧
            error.message = "Unknown key name '" ++ name ++ "'") ∨
          ((∃ key ∈ quitting, Key.parse? name = some key) ∧ error = .reservedKey name ∧
            error.message = "Key '" ++ name ++ "' is reserved for quitting")) ∧
        ∀ other value, overrides.get? other = some value → Text.bytes other < Text.bytes name →
          ∃ key ∉ quitting, Key.parse? other = some key) ∧
    (∀ map, withOverrides overrides = .ok map →
      (∀ (key : Key) (modifiers : List Modifier),
        let code : Key := match key with
          | .char c => .char c.toLower
          | _ => key
        (∀ name mask, Claims overrides code name mask →
          map.lookup ⟨key, modifiers⟩ = some mask) ∧
        ((∀ name mask, overrides.get? name = some mask → Key.parse? name ≠ some code) →
          map.lookup ⟨key, modifiers⟩ = default.get? code)) ∧
      (∀ key name mask, Claims overrides key name mask →
        ∀ modifiers, map.lookup ⟨key, modifiers⟩ = some mask) ∧
      ∀ key ∈ quitting, ∀ modifiers, map.lookup ⟨key, modifiers⟩ = none) ∧
    (∀ (map : KeyMap) (key : Key) (modifiers others : List Modifier),
      map.lookup ⟨key, modifiers⟩ = map.lookup ⟨key, others⟩) ∧
    (∀ (map : KeyMap) (c : Char) (modifiers others : List Modifier),
      map.lookup ⟨.char c, modifiers⟩ = map.lookup ⟨.char c.toLower, others⟩) ∧
    ∀ first second : List (String × Mask), first.Perm second → (first.map Prod.fst).Nodup →
      withOverrides (.ofList first) = withOverrides (.ofList second) := by
  intro quitting
  have hquits : ∀ name, (∃ key ∈ quitting, Key.parse? name = some key) ↔
      ∃ key, Key.parse? name = some key ∧ key.isQuit = true := by
    intro name
    simp only [quitting, ← Key.isQuit_iff, and_comm]
  refine ⟨?_, ?_, fun map hmap => ⟨?_, ?_, ?_⟩, ?_, ?_, ?_⟩
  · simp only [hquits, ← exists_refused_iff]
    constructor
    · rintro ⟨error, herror⟩
      obtain ⟨name, mask, hbound, hname, -⟩ := withOverrides_eq_error_iff.mp herror
      exact ⟨name, mask, hbound, error, hname⟩
    · rintro ⟨name, mask, hbound, reported, hname⟩
      cases hrun : withOverrides overrides with
      | error error => exact ⟨error, rfl⟩
      | ok map => exact absurd ((withOverrides_eq_ok hrun).1 name mask hbound) hname.not_bindable
  · intro error
    simp only [hquits, quitting, ← bindable_iff, ← refused_iff, Text.bytes_lt_iff]
    exact withOverrides_eq_error_iff
  · intro key modifiers code
    have hcode : key.fold = code := by
      cases key <;> rfl
    rw [lookup, hcode]
    exact ⟨fun name mask hclaim => get?_of_claims hmap hclaim, get?_of_unnamed hmap⟩
  · intro key name mask hclaim modifiers
    rw [lookup, Key.fold_of_parse? hclaim.names]
    exact get?_of_claims hmap hclaim
  · exact fun key hkey => lookup_of_isQuit hmap (Key.isQuit_iff.mpr hkey)
  · exact fun map key modifiers others => rfl
  · intro map c modifiers others
    rw [lookup, lookup, Key.fold, Key.fold, Char.toLower_toLower_eq_toLower]
  · intro first second hperm hnodup
    rw [NameMap.ofList_perm hperm hnodup]

example :
    ∃ map, withOverrides (.ofList [("return", .ofButton .a), ("Enter", .ofButton .b)]) = .ok map ∧
      map.lookup ⟨.enter, [.shift]⟩ = some (.ofButton .a) ∧
      map.lookup ⟨.char 'B', [.shift]⟩ = some (.ofButton .b) :=
  ⟨_, rfl, rfl, rfl⟩

end KeyMap
end ButtonCombo
