/-!
# Maps from names

A finite map whose entries are kept in the order of their names, each name once.  Names
are ordered by the code points of their characters.

Main facts:

* `get?_insert`: inserting changes the value of one name and of no other;
* `sorted`: the entries stand in strictly increasing order of names.
-/

namespace ButtonCombo

/-- The entries stand in strictly increasing order of names. -/
def SortedNames {α : Type} (entries : List (String × α)) : Prop :=
  entries.Pairwise fun a b => a.1 < b.1

/-- A finite map from names, with its entries in order. -/
structure NameMap (α : Type) where
  entries : List (String × α)
  sorted : SortedNames entries

namespace NameMap

variable {α : Type}

/-- The map without entries. -/
def empty : NameMap α :=
  ⟨[], List.Pairwise.nil⟩

/-- Insert an entry at its place; it takes the place of an entry of the same name. -/
def insertEntry
    (name : String)
    (value : α) : List (String × α) → List (String × α)
  | [] => [(name, value)]
  | (other, old) :: rest =>
      if name < other then (name, value) :: (other, old) :: rest
      else if name = other then (name, value) :: rest
      else (other, old) :: insertEntry name value rest

/-- The value of a name among entries. -/
def find?
    (name : String) : List (String × α) → Option α
  | [] => none
  | (other, value) :: rest => if name = other then some value else find? name rest

theorem fst_mem_insertEntry
    {name : String}
    {value : α}
    {entries : List (String × α)}
    {e : String × α}
    (h : e ∈ insertEntry name value entries) :
    e.1 = name ∨ e ∈ entries := by
  induction entries with
  | nil =>
      simp only [insertEntry, List.mem_singleton] at h
      exact .inl (h ▸ rfl)
  | cons entry rest ih =>
      obtain ⟨other, old⟩ := entry
      simp only [insertEntry] at h
      split at h
      · rcases List.mem_cons.mp h with rfl | h
        · exact .inl rfl
        · exact .inr h
      · split at h
        · rcases List.mem_cons.mp h with rfl | h
          · exact .inl rfl
          · exact .inr (List.mem_cons_of_mem _ h)
        · rcases List.mem_cons.mp h with rfl | h
          · exact .inr List.mem_cons_self
          · rcases ih h with h | h
            · exact .inl h
            · exact .inr (List.mem_cons_of_mem _ h)

theorem sortedNames_insertEntry
    (name : String)
    (value : α)
    {entries : List (String × α)}
    (h : SortedNames entries) :
    SortedNames (insertEntry name value entries) := by
  induction entries with
  | nil => exact List.pairwise_singleton _ _
  | cons entry rest ih =>
      obtain ⟨other, old⟩ := entry
      obtain ⟨hhead, htail⟩ := List.pairwise_cons.mp h
      simp only [insertEntry]
      split
      · rename_i hlt
        refine List.pairwise_cons.mpr ⟨?_, h⟩
        intro e he
        rcases List.mem_cons.mp he with rfl | he
        · exact hlt
        · exact String.lt_trans hlt (hhead e he)
      · split
        · rename_i heq
          subst heq
          exact List.pairwise_cons.mpr ⟨hhead, htail⟩
        · rename_i hge hne
          refine List.pairwise_cons.mpr ⟨?_, ih htail⟩
          intro e he
          rcases fst_mem_insertEntry he with he | he
          · have hle : other ≤ name := String.not_lt.mp hge
            rw [he]
            exact Std.lt_of_le_of_ne hle (Ne.symm hne)
          · exact hhead e he

/-- The map with one more entry, or with another value for its name. -/
def insert
    (m : NameMap α)
    (name : String)
    (value : α) : NameMap α :=
  ⟨insertEntry name value m.entries, sortedNames_insertEntry name value m.sorted⟩

/-- The map of a list of entries; of two entries of one name the later one counts. -/
def ofList (entries : List (String × α)) : NameMap α :=
  entries.foldl (fun m entry => m.insert entry.1 entry.2) empty

/-- The value of a name. -/
def get?
    (m : NameMap α)
    (name : String) : Option α :=
  find? name m.entries

theorem find?_insertEntry
    (name query : String)
    (value : α)
    (entries : List (String × α)) :
    find? query (insertEntry name value entries) =
      if query = name then some value else find? query entries := by
  induction entries with
  | nil => simp [insertEntry, find?]
  | cons entry rest ih =>
      obtain ⟨other, old⟩ := entry
      simp only [insertEntry]
      split
      · rfl
      · split
        · rename_i heq
          subst heq
          by_cases h : query = name <;> simp [find?, h]
        · rename_i hne
          by_cases h : query = other
          · subst h
            simp [find?, Ne.symm hne]
          · simp [find?, h, ih]

/-- Inserting changes the value of one name and of no other. -/
theorem get?_insert
    (m : NameMap α)
    (name query : String)
    (value : α) :
    (m.insert name value).get? query = if query = name then some value else m.get? query :=
  find?_insertEntry name query value m.entries

end NameMap
end ButtonCombo
