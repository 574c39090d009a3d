/-!
# The stop signal

A flag that is raised once and stays up.  The loop that watches the keyboard ends when
it is up, whoever raised it.
-/

namespace ButtonCombo

/-- A request to stop. -/
structure StopSignal where
  isRaised : Bool := false
  deriving DecidableEq

namespace StopSignal

/-- Ask to stop. -/
def raise (_signal : StopSignal) : StopSignal :=
  { isRaised := true }

end StopSignal
end ButtonCombo
