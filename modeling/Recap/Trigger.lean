/-!
# When a pass is due

## Contents
- `contextPercent` — the share of the context window in use.
- `Thresholds`, `Thresholds.reached` — the rule.
-/

namespace Recap

/-- The share of the context window in use, in percent. A window of unknown size counts as unused. -/
def contextPercent (window current : UInt64) : Float :=
  if window > 0 then current.toFloat / window.toFloat * 100.0 else 0.0

/-- When a pass starts by itself. -/
structure Thresholds where
  /-- This many messages that no summary stands for. -/
  messages : UInt64
  /-- This share of the context window in use, in percent. -/
  context : Float

/-- Whether either threshold is reached. -/
def Thresholds.reached (t : Thresholds) (unsummarized window current : UInt64) : Bool :=
  decide (t.messages ≤ unsummarized) || decide (t.context ≤ contextPercent window current)

end Recap
