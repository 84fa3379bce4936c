import Recap.Chat.Basic

/-!
# Token budgets

What a prompt leaves for summaries. A fifth of the context window is kept for the reply.

## Contents
- `asSigned` — a count as a signed number of 64 bits.
- `Budget`, `Budget.calculate` — the parts of a prompt.
- `historyBudget` — what is left for the history of a chat.
-/

namespace Recap

/-- A count read as a signed number of 64 bits: counts from `2^63` on are negative. -/
def asSigned (n : UInt64) : Int := n.toInt64.toInt

/-- The largest signed number of 64 bits. -/
def unlimited : Int := 0x7FFFFFFFFFFFFFFF

/-- The share of the context window kept for the reply. -/
def replyShare : Float := 0.2

/-- Tokens of a prompt. A negative number means that there is no room. -/
structure Budget where
  maxContextTokens : Int
  currentContextTokens : Int
  available : Int
  reserved : Int
  history : Int
  deriving DecidableEq, Repr

/-- The share of a window of `max` tokens kept for the reply, rounded down. -/
def replyReserve (max : UInt64) : Int := (max.toInt64.toFloat * replyShare).floor.toInt64.toInt

/-- The budget of a window of `max` tokens, of which `current` are in use and some are taken by the
    fixed parts of the prompt. The differences are taken without a bound, where signed numbers of 64 bits
    would wrap: with counts of less than `2^61` nothing leaves their range, and there is no difference. -/
def Budget.calculate (max current system character : UInt64) : Budget :=
  let available := asSigned max - asSigned system - asSigned character
  let reserved := replyReserve max
  { maxContextTokens := asSigned max
    currentContextTokens := asSigned current
    available
    reserved
    history := available - reserved - asSigned current }

/-- What is left for the history of a chat; no limit when the size of the window is unknown. -/
def historyBudget (chat : Chat) : Int :=
  if chat.maxContextTokens = 0 then unlimited
  else (Budget.calculate chat.maxContextTokens chat.contextTokens chat.systemPromptTokens
    chat.characterPromptTokens).history

end Recap
