/-!
# Ids for summaries

A supply of ids that are numbered as they come into use. Ids that were drawn but never saved go back
into the supply.

## Contents
- `Ids`, `Ids.draw` — the supply.
- `Ids.keep`, `Ids.release` — what becomes of the ids drawn.
-/

namespace Recap

/-- A supply of ids. -/
structure Ids where
  /-- How many are in use. -/
  saved : Nat
  /-- How many were drawn since. -/
  drawn : Nat
  deriving DecidableEq, Repr

namespace Ids

/-- No id is in use. -/
def none : Ids := { saved := 0, drawn := 0 }

/-- The id of a number. -/
def name (n : Nat) : String := "uuid-" ++ Nat.repr n

/-- The next id. -/
def draw (ids : Ids) : String × Ids :=
  (name (ids.saved + ids.drawn + 1), { ids with drawn := ids.drawn + 1 })

/-- The ids drawn are in use. -/
def keep (ids : Ids) : Ids := { saved := ids.saved + ids.drawn, drawn := 0 }

/-- The ids drawn are not in use. -/
def release (ids : Ids) : Ids := { ids with drawn := 0 }

end Ids

end Recap
