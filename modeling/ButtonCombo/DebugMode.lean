import ButtonCombo.Mask

/-!
# The debug-mode code

The sequence that a recognizer watches for unless it is told otherwise: up, up, down,
down, left, right, left, right, B, A, start.
-/

namespace ButtonCombo

/-- The buttons of the debug-mode code. -/
def debugModeCode : List Button :=
  [.dpadUp, .dpadUp, .dpadDown, .dpadDown, .dpadLeft, .dpadRight, .dpadLeft, .dpadRight,
   .b, .a, .start]

/-- The debug-mode code as frames of the pad, one button each. -/
def debugModeSequence : List Mask :=
  debugModeCode.map .ofButton

end ButtonCombo
