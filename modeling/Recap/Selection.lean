import Recap.Budget
import Recap.Storage.Basic
import Recap.Text.Words

/-!
# Fitting summaries into a budget

Newer summaries come first: from the newest back, each one that still fits is taken. What is taken is
given oldest first. The story takes its share before the first tier, and the second tier gets what
is left.

## Contents
- `takeFitting`, `selectWithin` — one tier.
- `Context`, `buildContext` — all tiers.
- `Context.assemble` — the text of what was taken.
-/

namespace Recap

/-! ## One tier -/

/-- What a summary costs. -/
def Summary.cost (s : Summary) : Int := asSigned s.tokenCount

/-- The cost of a list of summaries. -/
def costOf (ss : List Summary) : Int := ss.foldr (fun s n => s.cost + n) 0

/-- From the front of a list, every summary that still fits when `used` is spent already. The costs are
    added up without a bound, where signed numbers of 64 bits would wrap: as long as no sum reaches `2^63`
    there is no difference. -/
def takeFitting (budget : Int) : Int → List Summary → List Summary
  | _, [] => []
  | used, s :: ss =>
    if used + s.cost ≤ budget then s :: takeFitting budget (used + s.cost) ss
    else takeFitting budget used ss

/-- The summaries from the newest to the oldest; of the same time, in the order given. -/
def newestFirst (ss : List Summary) : List Summary :=
  ss.mergeSort fun a b => decide (b.timestamp ≤ a.timestamp)

/-- The newest summaries that fit, oldest first. Nothing fits a negative budget. -/
def selectWithin (ss : List Summary) (budget : Int) : List Summary :=
  if budget < 0 then [] else (takeFitting budget 0 (newestFirst ss)).reverse

/-! ## All tiers -/

/-- The summaries chosen for one prompt. -/
structure Context where
  story : Option String
  level2 : List Summary
  level1 : List Summary
  deriving DecidableEq, Repr

namespace Context

/-- Whether there is nothing to tell. -/
def isEmpty (c : Context) : Bool :=
  c.story.all String.isEmpty && c.level2.isEmpty && c.level1.isEmpty

/-- What everything costs. -/
def tokenCount (c : Context) : Nat :=
  Tier.cost c.level2 + Tier.cost c.level1 + (c.story.map Text.estimateTokens).getD 0

/-- The story, under its heading. -/
def storySection (c : Context) : List String :=
  match c.story with
  | some story => if story.isEmpty then [] else ["[Story So Far]\n" ++ story ++ "\n"]
  | none => []

/-- Summaries under a heading; nothing when there are none. -/
def tierSection (heading : String) (ss : List Summary) : List String :=
  if ss.isEmpty then [] else heading :: ss.map (·.text) ++ [""]

/-- The text of a context, the broadest part first. -/
def assemble (c : Context) : String :=
  "\n".intercalate
    (c.storySection ++ tierSection "[Previous Chapters]" c.level2 ++
      tierSection "[Recent Events]" c.level1)

end Context

/-- The story, if its estimated cost is within the budget. -/
def storyWithin (s : Story) (budget : Int) : Option String :=
  s.text?.filter fun text => (Text.estimateTokens text : Int) ≤ budget

/-- What a chosen story costs. -/
def storyCost (story : Option String) : Int :=
  (story.map fun text => (Text.estimateTokens text : Int)).getD 0

/-- What fits into a budget: the story, then the first tier, then the second. -/
def buildContext (s : Storage) (budget : Int) : Context :=
  let story := storyWithin s.level3 budget
  let afterStory := budget - storyCost story
  let level1 := selectWithin s.level1.summaries afterStory
  let level2 := selectWithin s.level2.summaries (afterStory - costOf level1)
  { story, level2, level1 }

end Recap
