import ButtonCombo.Indicator
import Mathlib.Data.List.TakeWhile

/-!
# A status line is read again

Whatever a status line shows can be read off it.  The bar ends at the first closing bracket,
a number ends where its digits end, and what stands behind the second number is the
indicator or nothing.  So a line tells the number of filled cells, the number of all cells
and whether the indicator shows, and it tells nothing else.

The bar never has more filled cells than cells, however far the progress is beyond the
length; 64-bit words therefore take the filled cells from all cells without a borrow.

Main facts:

* `readStatus?_statusLine`: what is read off a status line;
* `statusLine_eq_iff`: lines are equal exactly if they show the same;
* `statusLine_encodes`: both, and the count of the empty cells in 64-bit words.
-/

namespace ButtonCombo

theorem filledCells_le
    (progress length : Nat) :
    filledCells progress length ≤ length :=
  Nat.min_le_right progress length

/-- Filled cells fit into a word as all cells do. -/
theorem ofNat_filledCells_le
    (progress : Nat)
    (length : UInt64) :
    UInt64.ofNat (filledCells progress length.toNat) ≤ length := by
  have hle := filledCells_le progress length.toNat
  rwa [UInt64.le_iff_toNat_le,
    UInt64.toNat_ofNat_of_lt' (Nat.lt_of_le_of_lt hle length.toNat_lt)]

/-- In 64-bit words the filled cells are taken from all cells without a borrow. -/
theorem toNat_emptyCells
    (progress : Nat)
    (length : UInt64) :
    (length - UInt64.ofNat (filledCells progress length.toNat)).toNat =
      length.toNat - filledCells progress length.toNat := by
  have hlt : filledCells progress length.toNat < UInt64.size :=
    Nat.lt_of_le_of_lt (filledCells_le progress length.toNat) length.toNat_lt
  rw [UInt64.toNat_sub_of_le _ _ (ofNat_filledCells_le progress length),
    UInt64.toNat_ofNat_of_lt' hlt]

/-- What a status line shows: the cells of its bar, the two numerals, and the text behind
them. -/
structure StatusReading where
  cells : List Char
  filled : List Char
  length : List Char
  rest : List Char

/-- Read a status line: the cells in brackets, a blank, two numerals with a slash between
them, and what is left. -/
def readStatus? : List Char → Option StatusReading
  | '[' :: bar =>
      match bar.dropWhile (· != ']') with
      | ']' :: ' ' :: numbers =>
          match numbers.dropWhile Char.isDigit with
          | '/' :: lengthAndRest =>
              some
                { cells := bar.takeWhile (· != ']')
                  filled := numbers.takeWhile Char.isDigit
                  length := lengthAndRest.takeWhile Char.isDigit
                  rest := lengthAndRest.dropWhile Char.isDigit }
          | _ => none
      | _ => none
  | _ => none

section Fronts

variable {p : Char → Bool} {front rest : List Char}

/-- A front of characters of one kind ends where the first other character stands. -/
theorem takeWhile_front
    (hfront : ∀ c ∈ front, p c = true)
    (hrest : ∀ c ∈ rest.head?, p c = false) :
    (front ++ rest).takeWhile p = front := by
  rw [List.takeWhile_append_of_pos hfront]
  cases rest with
  | nil => simp
  | cons c rest => simp [hrest c rfl]

theorem dropWhile_front
    (hfront : ∀ c ∈ front, p c = true)
    (hrest : ∀ c ∈ rest.head?, p c = false) :
    (front ++ rest).dropWhile p = rest := by
  rw [List.dropWhile_append_of_pos hfront]
  cases rest with
  | nil => rfl
  | cons c rest => simp [hrest c rfl]

end Fronts

/-- The filled cells and then the empty ones. -/
def barCells (progress length : Nat) : List Char :=
  List.replicate (filledCells progress length) '#' ++
    List.replicate (length - filledCells progress length) '-'

theorem length_barCells
    (progress length : Nat) :
    (barCells progress length).length = length := by
  have hle := filledCells_le progress length
  simp only [barCells, List.length_append, List.length_replicate]
  omega

theorem ne_bracket_of_mem_barCells
    {progress length : Nat} :
    ∀ c ∈ barCells progress length, (c != ']') = true := by
  intro c hc
  rcases List.mem_append.mp hc with hfilled | hempty
  · rw [List.eq_of_mem_replicate hfilled]
    rfl
  · rw [List.eq_of_mem_replicate hempty]
    rfl

/-- A number is known by its decimal numeral. -/
theorem toDigits_injective
    {m n : Nat}
    (h : Nat.toDigits 10 m = Nat.toDigits 10 n) :
    m = n := by
  calc
    m = Nat.ofDigitChars 10 (Nat.toDigits 10 m) 0 := Nat.ofDigitChars_ten_toDigits.symm
    _ = Nat.ofDigitChars 10 (Nat.toDigits 10 n) 0 := by rw [h]
    _ = n := Nat.ofDigitChars_ten_toDigits

/-- The text behind the numbers. -/
def indicatorText (visible : Bool) : List Char :=
  if visible then "  DEBUG MODE".toList else []

theorem not_isDigit_head?_indicatorText
    {visible : Bool} :
    ∀ c ∈ (indicatorText visible).head?, c.isDigit = false := by
  rintro c hc
  cases visible with
  | false => cases hc
  | true =>
      obtain rfl : ' ' = c := Option.some.inj hc
      rfl

theorem indicatorText_injective
    {visible other : Bool}
    (h : indicatorText visible = indicatorText other) :
    visible = other := by
  have hlength : ∀ visible, (indicatorText visible).length = if visible then 12 else 0 := by
    intro visible
    cases visible <;> rfl
  have heq := congrArg List.length h
  rw [hlength, hlength] at heq
  cases visible <;> cases other <;> simp at heq ⊢

section Lines

variable (progress length : Nat) (active : Bool) (indicator : Indicator)

/-- A status line, character by character. -/
theorem toList_statusLine :
    (statusLine progress length active indicator).toList =
      '[' :: (barCells progress length ++ ']' :: ' ' ::
        (Nat.toDigits 10 (filledCells progress length) ++ '/' ::
          (Nat.toDigits 10 length ++ indicatorText (indicator.isVisible active)))) := by
  have hrest : (if indicator.isVisible active then "  " ++ Indicator.text else "").toList =
      indicatorText (indicator.isVisible active) := by
    cases indicator.isVisible active <;> rfl
  have hspace : " ".toList = [' '] := rfl
  have hslash : "/".toList = ['/'] := rfl
  simp only [statusLine, String.toList_append, hrest, hspace, hslash,
    Nat.toString_eq_ofList_toDigits, String.toList_ofList, progressBar, barCells,
    List.append_assoc, List.cons_append, List.nil_append]

/-- What is read off a status line. -/
theorem readStatus?_statusLine :
    readStatus? (statusLine progress length active indicator).toList =
      some
        { cells := barCells progress length
          filled := Nat.toDigits 10 (filledCells progress length)
          length := Nat.toDigits 10 length
          rest := indicatorText (indicator.isVisible active) } := by
  have hbracket : ∀ rest, ∀ c ∈ (']' :: rest).head?, (c != ']') = false := by
    rintro rest c ⟨⟩
    rfl
  have hslash : ∀ rest, ∀ c ∈ ('/' :: rest).head?, c.isDigit = false := by
    rintro rest c ⟨⟩
    rfl
  have hdigits : ∀ n, ∀ c ∈ Nat.toDigits 10 n, c.isDigit = true :=
    fun n c hc => Nat.isDigit_of_mem_toDigits (by omega) (by omega) hc
  have hrest : ∀ c ∈ (indicatorText (indicator.isVisible active)).head?, c.isDigit = false :=
    not_isDigit_head?_indicatorText
  rw [toList_statusLine, readStatus?,
    dropWhile_front ne_bracket_of_mem_barCells (hbracket _),
    takeWhile_front ne_bracket_of_mem_barCells (hbracket _)]
  simp only [dropWhile_front (hdigits _) (hslash _), takeWhile_front (hdigits _) (hslash _),
    dropWhile_front (hdigits _) hrest, takeWhile_front (hdigits _) hrest]

variable {progress length active indicator}

/-- Two status lines are equal exactly if they show the same. -/
theorem statusLine_eq_iff
    {progress' length' : Nat}
    {active' : Bool}
    {indicator' : Indicator} :
    statusLine progress length active indicator =
        statusLine progress' length' active' indicator' ↔
      filledCells progress length = filledCells progress' length' ∧ length = length' ∧
        indicator.isVisible active = indicator'.isVisible active' := by
  constructor
  · intro h
    have hread := readStatus?_statusLine progress length active indicator
    rw [h, readStatus?_statusLine, Option.some.injEq, StatusReading.mk.injEq] at hread
    obtain ⟨-, hfilled, hlength, hrest⟩ := hread
    exact ⟨(toDigits_injective hfilled).symm, (toDigits_injective hlength).symm,
      (indicatorText_injective hrest).symm⟩
  · rintro ⟨hfilled, rfl, hvisible⟩
    refine String.toList_injective ?_
    rw [toList_statusLine, toList_statusLine, barCells, barCells, hfilled, hvisible]

end Lines

/-- **A status line is a faithful encoding.**  In 64-bit words the filled cells are never
more than all cells, so counting the empty ones does not wrap around.  The line is a bar of
as many cells as the length says, filled ones in front, then the two counts in decimal, then
the indicator if it is visible and nothing otherwise; and it tells these things apart: two
lines are equal exactly if they agree on the filled cells, on the length, and on whether the
indicator is visible. -/
theorem statusLine_encodes :
    (∀ progress length : UInt64,
      let filled := filledCells progress.toNat length.toNat
      filled = min progress.toNat length.toNat ∧
      UInt64.ofNat filled ≤ length ∧
      (length - UInt64.ofNat filled).toNat = length.toNat - filled) ∧
    (∀ (progress length : Nat) (active : Bool) (indicator : Indicator),
      ∃ reading,
        readStatus? (statusLine progress length active indicator).toList = some reading ∧
        reading.cells.length = length ∧
        reading.cells = List.replicate (min progress length) '#' ++
          List.replicate (length - min progress length) '-' ∧
        reading.filled = Nat.toDigits 10 (min progress length) ∧
        reading.length = Nat.toDigits 10 length ∧
        reading.rest = if indicator.isVisible active then "  DEBUG MODE".toList else []) ∧
    ∀ (progress length : Nat) (active : Bool) (indicator : Indicator)
      (progress' length' : Nat) (active' : Bool) (indicator' : Indicator),
      statusLine progress length active indicator =
          statusLine progress' length' active' indicator' ↔
        min progress length = min progress' length' ∧ length = length' ∧
          indicator.isVisible active = indicator'.isVisible active' := by
  refine ⟨?_, ?_, ?_⟩
  · intro progress length filled
    exact ⟨rfl, ofNat_filledCells_le progress.toNat length,
      toNat_emptyCells progress.toNat length⟩
  · intro progress length active indicator
    exact ⟨_, readStatus?_statusLine progress length active indicator,
      length_barCells progress length, rfl, rfl, rfl, rfl⟩
  · intro progress length active indicator progress' length' active' indicator'
    exact statusLine_eq_iff

example : statusLine 20 3 true .onUnlock = "[###] 3/3  DEBUG MODE" := by
  cbv

end ButtonCombo
