import ButtonCombo.NameMap
import Mathlib.Data.List.Sort

/-!
# The entries of a map from names

The entries of a map stand in strictly increasing order of names, so a map is known by the
value of each name: maps that agree on all names have the same entries in the same order.
In particular it makes no difference in which order the entries of a list come, as long as
each name occurs once.

Main facts:

* `get?_eq_some_iff`: the values of the names are the entries;
* `ext_get?`: maps that agree on all names are equal;
* `get?_ofList`, `ofList_perm`: a map made of a list of entries.
-/

namespace ButtonCombo
namespace NameMap

variable {α : Type}

theorem mem_of_find?
    {name : String}
    {value : α}
    {entries : List (String × α)}
    (h : find? name entries = some value) :
    (name, value) ∈ entries := by
  induction entries with
  | nil => cases h
  | cons entry rest ih =>
      obtain ⟨other, old⟩ := entry
      simp only [find?] at h
      split at h
      · rename_i heq
        cases h
        rw [heq]
        exact List.mem_cons_self
      · exact List.mem_cons_of_mem _ (ih h)

theorem find?_of_mem
    {name : String}
    {value : α}
    {entries : List (String × α)}
    (hsorted : SortedNames entries)
    (h : (name, value) ∈ entries) :
    find? name entries = some value := by
  induction entries with
  | nil => cases h
  | cons entry rest ih =>
      obtain ⟨other, old⟩ := entry
      obtain ⟨hhead, htail⟩ := List.pairwise_cons.mp hsorted
      simp only [find?]
      rcases List.mem_cons.mp h with heq | hrest
      · cases heq
        rw [if_pos rfl]
      · have hlt : other < name := hhead _ hrest
        have hne : name ≠ other := fun e => String.lt_irrefl name (e ▸ hlt)
        rw [if_neg hne]
        exact ih htail hrest

/-- The values of the names are the entries. -/
theorem get?_eq_some_iff
    {m : NameMap α}
    {name : String}
    {value : α} :
    m.get? name = some value ↔ (name, value) ∈ m.entries :=
  ⟨mem_of_find?, find?_of_mem m.sorted⟩

/-- Maps that agree on all names are equal. -/
theorem ext_get?
    {m n : NameMap α}
    (h : ∀ name, m.get? name = n.get? name) :
    m = n := by
  have hmem : ∀ e, e ∈ m.entries ↔ e ∈ n.entries := by
    rintro ⟨name, value⟩
    rw [← get?_eq_some_iff, ← get?_eq_some_iff, h]
  have hirrefl : Std.Irrefl fun a b : String × α => a.1 < b.1 :=
    ⟨fun e => String.lt_irrefl e.1⟩
  have hantisymm : Std.Antisymm fun a b : String × α => a.1 < b.1 :=
    ⟨fun a b hab hba => absurd (String.lt_trans hab hba) (String.lt_irrefl a.1)⟩
  have hentries : m.entries = n.entries := m.sorted.eq_of_mem_iff n.sorted hmem
  cases m
  cases n
  congr

theorem get?_foldl_insert
    {entries : List (String × α)}
    (hnodup : (entries.map Prod.fst).Nodup)
    (m : NameMap α)
    {name : String}
    {value : α} :
    (entries.foldl (fun m entry => m.insert entry.1 entry.2) m).get? name = some value ↔
      (name, value) ∈ entries ∨ (name ∉ entries.map Prod.fst ∧ m.get? name = some value) := by
  induction entries generalizing m with
  | nil => simp
  | cons entry rest ih =>
      obtain ⟨other, old⟩ := entry
      obtain ⟨hother, hrest⟩ := List.nodup_cons.mp hnodup
      rw [List.foldl_cons, ih hrest, get?_insert]
      by_cases heq : name = other
      · subst heq
        have habsent : ∀ v, (name, v) ∉ rest :=
          fun v hv => hother (List.mem_map.mpr ⟨(name, v), hv, rfl⟩)
        simp [hother, habsent, eq_comm]
      · simp [heq]

/-- A list in which each name occurs once is the map made of it. -/
theorem get?_ofList
    {entries : List (String × α)}
    (hnodup : (entries.map Prod.fst).Nodup)
    {name : String}
    {value : α} :
    (ofList entries).get? name = some value ↔ (name, value) ∈ entries := by
  rw [ofList, get?_foldl_insert hnodup]
  simp [get?, find?, empty]

/-- The order of the entries makes no difference if each name occurs once. -/
theorem ofList_perm
    {first second : List (String × α)}
    (hperm : first.Perm second)
    (hnodup : (first.map Prod.fst).Nodup) :
    ofList first = ofList second := by
  have hnodup' : (second.map Prod.fst).Nodup := (hperm.map Prod.fst).nodup_iff.mp hnodup
  refine ext_get? fun name => Option.ext fun value => ?_
  rw [get?_ofList hnodup, get?_ofList hnodup', hperm.mem_iff]

end NameMap
end ButtonCombo
