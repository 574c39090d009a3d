import ButtonCombo.Indicator

/-!
# The text of a status line

A status line is the bar and the two numbers, and behind them the indicator if it shows.
The bar and the numbers are written with few characters, none of which is a letter, so the
indicator occurs in the line only where it was put.

Main facts:

* `mem_plainStatus`: the characters of a status line without the indicator;
* `indicator_isInfix_iff`: the indicator is in the line exactly if it is visible.
-/

namespace ButtonCombo

/-- The bar and the two numbers. -/
def plainStatus (progress length : Nat) : String :=
  String.ofList (progressBar progress length) ++ " " ++
    toString (filledCells progress length) ++ "/" ++ toString length

theorem statusLine_eq
    (progress length : Nat)
    (active : Bool)
    (indicator : Indicator) :
    statusLine progress length active indicator =
      plainStatus progress length ++
        (if indicator.isVisible active then "  " ++ Indicator.text else "") := by
  rfl

/-- The bar is never full while a code is expected. -/
theorem dash_mem_progressBar
    {progress length : Nat}
    (h : progress < length) :
    '-' ∈ progressBar progress length := by
  have hempty : length - filledCells progress length ≠ 0 := by
    rw [filledCells]
    omega
  simp [progressBar, hempty]

/-- A character that bars and numbers are written with. -/
def isStatusChar (c : Char) : Bool :=
  c ∈ ['[', '#', '-', ']', ' ', '/'] || c.isDigit

theorem isStatusChar_of_mem_toString
    {n : Nat}
    {c : Char}
    (h : c ∈ (toString n).toList) :
    isStatusChar c = true := by
  rw [Nat.toString_eq_repr, Nat.toList_repr] at h
  have hdigit := Nat.isDigit_of_mem_toDigits (by omega) (by omega) h
  simp [isStatusChar, hdigit]

theorem isStatusChar_of_mem_progressBar
    {progress length : Nat}
    {c : Char}
    (h : c ∈ progressBar progress length) :
    isStatusChar c = true := by
  simp only [progressBar, List.cons_append, List.mem_cons, List.mem_append, List.mem_replicate,
    List.not_mem_nil, or_false] at h
  rcases h with rfl | (⟨-, rfl⟩ | ⟨-, rfl⟩) | rfl <;> rfl

/-- The characters of a status line without the indicator. -/
theorem mem_plainStatus
    {progress length : Nat}
    {c : Char}
    (h : c ∈ (plainStatus progress length).toList) :
    isStatusChar c = true := by
  simp only [plainStatus, String.toList_append, String.toList_ofList, List.mem_append] at h
  rcases h with (((hbar | hspace) | hfilled) | hslash) | hlength
  · exact isStatusChar_of_mem_progressBar hbar
  · rw [List.mem_singleton.mp hspace]
    rfl
  · exact isStatusChar_of_mem_toString hfilled
  · rw [List.mem_singleton.mp hslash]
    rfl
  · exact isStatusChar_of_mem_toString hlength

/-- The characters of a status line. -/
theorem mem_statusLine
    {progress length : Nat}
    {active : Bool}
    {indicator : Indicator}
    {c : Char}
    (h : c ∈ (statusLine progress length active indicator).toList) :
    isStatusChar c = true ∨ c ∈ Indicator.text.toList := by
  rw [statusLine_eq, String.toList_append, List.mem_append] at h
  rcases h with hplain | hindicator
  · exact Or.inl (mem_plainStatus hplain)
  · split at hindicator
    · rw [String.toList_append, List.mem_append] at hindicator
      rcases hindicator with hspace | htext
      · left
        rcases List.mem_cons.mp hspace with rfl | hspace
        · rfl
        · rw [List.mem_singleton.mp hspace]
          rfl
      · exact Or.inr htext
    · cases hindicator

/-- The indicator is in the line exactly if it is visible. -/
theorem indicator_isInfix_iff
    {progress length : Nat}
    {active : Bool}
    {indicator : Indicator} :
    Indicator.text.toList <:+: (statusLine progress length active indicator).toList ↔
      indicator.isVisible active = true := by
  rw [statusLine_eq]
  constructor
  · intro hinfix
    cases hvisible : indicator.isVisible active with
    | true => rfl
    | false =>
        rw [hvisible, if_neg Bool.false_ne_true, String.append_empty] at hinfix
        have hletter : 'D' ∈ (plainStatus progress length).toList :=
          hinfix.subset (by decide)
        exact absurd (mem_plainStatus hletter) (by decide)
  · intro hvisible
    rw [hvisible, if_pos rfl, String.toList_append, String.toList_append, ← List.append_assoc]
    exact (List.suffix_append _ _).isInfix

end ButtonCombo
