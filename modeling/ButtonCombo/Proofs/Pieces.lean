import ButtonCombo.Text.Blank
import Mathlib.Data.List.Forall2

/-!
# The pieces of a text

A text is cut into pieces at every separator.  The characters of the pieces are those of
the text without the separators, and padding at the ends of the text becomes padding of the
first and the last piece.  A text that is trimmed before it is cut therefore has the same
trimmed pieces as one that is not.

Pieces are read one by one, and reading ends at the first one that cannot be read.

Main facts:

* `not_mem_of_mem_splitOn`, `mem_splitOn_of_mem`: which characters a piece has;
* `map_trim_splitOn_trim`: trimming the text first makes no difference to trimmed pieces;
* `forall₂_or_first`: all pieces are read, or there is a first one that is not.
-/

namespace ButtonCombo
namespace Text

/-- A character of joined texts is one of the separator or of the texts. -/
theorem mem_intercalate
    {α : Type}
    {separator : List α}
    {lists : List (List α)}
    {a : α}
    (h : a ∈ separator.intercalate lists) :
    a ∈ separator ∨ ∃ list ∈ lists, a ∈ list := by
  induction lists with
  | nil => simp at h
  | cons list lists ih =>
      cases lists with
      | nil => exact Or.inr ⟨list, List.mem_singleton_self list, by simpa using h⟩
      | cons next rest =>
          rw [List.intercalate_cons_cons, List.mem_append, List.mem_append] at h
          rcases h with (hlist | hseparator) | hrest
          · exact Or.inr ⟨list, List.mem_cons_self, hlist⟩
          · exact Or.inl hseparator
          · rcases ih hrest with hseparator | ⟨other, hother, hmem⟩
            · exact Or.inl hseparator
            · exact Or.inr ⟨other, List.mem_cons_of_mem _ hother, hmem⟩

section Characters

variable {separator c : Char} {text piece : List Char}

/-- A character that is no separator is found in one of the pieces. -/
theorem mem_splitOn_of_mem
    (h : c ∈ text)
    (hne : c ≠ separator) :
    ∃ piece ∈ text.splitOn separator, c ∈ piece := by
  have hjoin : [separator].intercalate (text.splitOn separator) = text :=
    List.intercalate_splitOn separator
  rw [← hjoin] at h
  rcases mem_intercalate h with hseparator | hpiece
  · exact absurd (List.mem_singleton.mp hseparator) hne
  · exact hpiece

/-- No piece has a separator. -/
theorem not_mem_of_mem_splitOn
    (h : piece ∈ text.splitOn separator) :
    separator ∉ piece := by
  induction text generalizing piece with
  | nil =>
      rw [List.splitOn_nil, List.mem_singleton] at h
      subst h
      exact List.not_mem_nil
  | cons c text ih =>
      rw [List.splitOn_cons_eq_if_modifyHead] at h
      split at h
      · rcases List.mem_cons.mp h with rfl | hlater
        · exact List.not_mem_nil
        · exact ih hlater
      · rename_i hc
        cases hpieces : text.splitOn separator with
        | nil => exact absurd hpieces (List.splitOn_ne_nil separator text)
        | cons first rest =>
            rw [hpieces] at h ih
            rcases List.mem_cons.mp h with rfl | hlater
            · have hfirst := ih List.mem_cons_self
              simp only [beq_iff_eq] at hc
              simp [hfirst, Ne.symm hc]
            · exact ih (List.mem_cons_of_mem first hlater)

/-- A character that is no blank survives trimming. -/
theorem mem_trim_of_mem
    (h : c ∈ text)
    (hvisible : isBlank c = false) :
    c ∈ trim text := by
  obtain ⟨before, after, hbefore, hafter, htext⟩ := exists_padding text
  rw [htext, List.mem_append, List.mem_append] at h
  rcases h with (hblank | htrim) | hblank
  · rw [hbefore c hblank] at hvisible
    cases hvisible
  · exact htrim
  · rw [hafter c hblank] at hvisible
    cases hvisible

theorem mem_of_mem_trim
    (h : c ∈ trim text) :
    c ∈ text := by
  obtain ⟨before, after, -, -, htext⟩ := exists_padding text
  rw [htext]
  simp [h]

end Characters

section Padding

variable {separator : Char} {pad : List Char}

/-- Padding in front of a text becomes padding of its first piece. -/
theorem map_trim_splitOn_blank_append
    (hseparator : isBlank separator = false)
    (hpad : ∀ c ∈ pad, isBlank c = true)
    (text : List Char) :
    ((pad ++ text).splitOn separator).map trim = (text.splitOn separator).map trim := by
  induction pad with
  | nil => rfl
  | cons c pad ih =>
      obtain ⟨hc, hrest⟩ := List.forall_mem_cons.mp hpad
      have hne : c ≠ separator := by
        rintro rfl
        rw [hc] at hseparator
        cases hseparator
      rw [List.cons_append, List.splitOn_cons_eq_if_modifyHead, if_neg (by simpa using hne),
        ← ih hrest]
      cases (pad ++ text).splitOn separator with
      | nil => rfl
      | cons first rest =>
          have hblank : ∀ d ∈ [c], isBlank d = true := by simpa using hc
          have htrim : trim (c :: first) = trim first := trim_blank_append hblank first
          simp [htrim]

/-- A piece that is padded at its end. -/
def PadsEnd (padded piece : List Char) : Prop :=
  ∃ pad, (∀ c ∈ pad, isBlank c = true) ∧ padded = piece ++ pad

/-- Padding behind a text becomes padding of its last piece. -/
theorem splitOn_append_blank
    (hseparator : isBlank separator = false)
    (hpad : ∀ c ∈ pad, isBlank c = true)
    (text : List Char) :
    List.Forall₂ PadsEnd ((text ++ pad).splitOn separator) (text.splitOn separator) := by
  induction text with
  | nil =>
      have hmem : separator ∉ pad := by
        intro hmem
        rw [hpad separator hmem] at hseparator
        cases hseparator
      rw [List.nil_append, List.splitOn_eq_singleton hmem, List.splitOn_nil]
      exact .cons ⟨pad, hpad, rfl⟩ .nil
  | cons c text ih =>
      rw [List.cons_append, List.splitOn_cons_eq_if_modifyHead,
        List.splitOn_cons_eq_if_modifyHead]
      split
      · exact .cons ⟨[], by simp, rfl⟩ ih
      · revert ih
        generalize (text ++ pad).splitOn separator = padded
        generalize text.splitOn separator = pieces
        intro ih
        cases ih with
        | nil => exact .nil
        | cons hfirst hrest =>
            obtain ⟨more, hmore, rfl⟩ := hfirst
            exact .cons ⟨more, hmore, rfl⟩ hrest

/-- Trimming a text before it is cut makes no difference to its trimmed pieces. -/
theorem map_trim_splitOn_trim
    (hseparator : isBlank separator = false)
    (text : List Char) :
    ((trim text).splitOn separator).map trim = (text.splitOn separator).map trim := by
  obtain ⟨before, after, hbefore, hafter, htext⟩ := exists_padding text
  have hback : ((trim text ++ after).splitOn separator).map trim =
      ((trim text).splitOn separator).map trim := by
    rw [← List.forall₂_eq_eq_eq, List.forall₂_map_left_iff, List.forall₂_map_right_iff]
    refine (splitOn_append_blank hseparator hafter (trim text)).imp ?_
    rintro padded piece ⟨pad, hpad, rfl⟩
    exact trim_append_of_blank hpad piece
  rw [← hback, ← map_trim_splitOn_blank_append hseparator hbefore, ← List.append_assoc, ← htext]

end Padding

section Reading

variable {α β : Type} {reads : α → β → Prop} {pieces : List α}

/-- If all pieces are read, each of them is read as one of the results. -/
theorem exists_mem_of_forall₂
    {results : List β}
    (h : List.Forall₂ reads pieces results)
    {piece : α}
    (hpiece : piece ∈ pieces) :
    ∃ result ∈ results, reads piece result := by
  induction h with
  | nil => cases hpiece
  | @cons first result pieces results hfirst hrest ih =>
      rcases List.mem_cons.mp hpiece with rfl | hlater
      · exact ⟨result, List.mem_cons_self, hfirst⟩
      · obtain ⟨other, hother, hreads⟩ := ih hlater
        exact ⟨other, List.mem_cons_of_mem result hother, hreads⟩

/-- Either all pieces are read, or one of them is the first that is not. -/
theorem forall₂_or_first
    (reads : α → β → Prop)
    (pieces : List α) :
    (∃ results, List.Forall₂ reads pieces results) ∨
      ∃ front piece back,
        pieces = front ++ piece :: back ∧
        (∀ known ∈ front, ∃ result, reads known result) ∧
        ∀ result, ¬ reads piece result := by
  induction pieces with
  | nil => exact Or.inl ⟨[], .nil⟩
  | cons piece pieces ih =>
      by_cases hpiece : ∃ result, reads piece result
      · obtain ⟨result, hresult⟩ := hpiece
        rcases ih with ⟨results, hresults⟩ | ⟨front, bad, back, rfl, hfront, hbad⟩
        · exact Or.inl ⟨result :: results, .cons hresult hresults⟩
        · refine Or.inr ⟨piece :: front, bad, back, rfl, ?_, hbad⟩
          exact List.forall_mem_cons.mpr ⟨⟨result, hresult⟩, hfront⟩
      · exact Or.inr ⟨[], piece, pieces, rfl, by simp, not_exists.mp hpiece⟩

end Reading
end Text
end ButtonCombo
