/-!
# The status line

While the keyboard is watched the host shows how far the sequence has been entered: a
bar with one cell per code, the two numbers, and the unlock indicator when its mode
allows it.
-/

namespace ButtonCombo

/-- When the unlock indicator is shown. -/
inductive Indicator
  | onUnlock
  | always
  | never
  deriving DecidableEq

namespace Indicator

/-- The modes with the names they have in a configuration. -/
def names : List (String × Indicator) :=
  [("on-unlock", onUnlock), ("always", always), ("never", never)]

/-- Whether the indicator shows, given whether the sequence has been entered. -/
def isVisible : Indicator → Bool → Bool
  | onUnlock, active => active
  | always, _ => true
  | never, _ => false

/-- The text of the indicator. -/
def text : String :=
  "DEBUG MODE"

end Indicator

/-- The number of cells of the bar that are filled. -/
def filledCells (progress length : Nat) : Nat :=
  min progress length

/-- The bar: filled cells, then empty ones. -/
def progressBar (progress length : Nat) : List Char :=
  let filled := filledCells progress length
  '[' :: List.replicate filled '#' ++ List.replicate (length - filled) '-' ++ [']']

/-- The bar, the numbers, and the indicator behind two spaces. -/
def statusLine
    (progress length : Nat)
    (active : Bool)
    (indicator : Indicator) : String :=
  String.ofList (progressBar progress length) ++ " " ++
    toString (filledCells progress length) ++ "/" ++ toString length ++
    (if indicator.isVisible active then "  " ++ Indicator.text else "")

end ButtonCombo
