import Recap.Chat.Basic
import Recap.Text.Words

/-!
# The stand-in compressor

Summaries without a language model: the first words of every message, or the first words of the first
and the last words of the last one.

## Contents
- `StandIn`, `StandIn.summarize` — the two forms.
-/

namespace Recap

open Text (words)

/-- The form of a stand-in summary. -/
inductive StandIn where
  /-- A line for every message. -/
  | perMessage
  /-- The beginning of the first message and the end of the last. -/
  | bookends
  deriving DecidableEq, Repr

namespace StandIn

/-- The name of a form. -/
def name : StandIn → String
  | perMessage => "per_message"
  | bookends => "bookends"

/-- All forms with their names. -/
def named : List (String × StandIn) :=
  [(perMessage.name, perMessage), (bookends.name, bookends)]

/-- Words kept of each message. -/
def lineWords : Nat := 25

/-- Words kept at either end. -/
def bookendWords : Nat := 5

/-- The line of the message at a position of its chunk. -/
def line (index : Nat) (m : Message) : String :=
  let label := "[" ++ Nat.repr index ++ "]"
  let head := (words m.text).take lineWords
  if head.isEmpty then label else label ++ " " ++ " ".intercalate head

/-- The last `n` of a list. -/
def lastOf {α : Type} (n : Nat) (xs : List α) : List α := xs.drop (xs.length - n)

/-- The summary of a chunk. -/
def summarize (form : StandIn) (messages : List Message) : String :=
  match messages with
  | [] => "[Test Summary] No messages"
  | first :: rest =>
    match form with
    | perMessage => "\n".intercalate ("[Test Compressed Chunk]" :: messages.mapIdx line)
    | bookends =>
      let last := (first :: rest).getLast (by simp)
      "[Test] " ++ " ".intercalate ((words first.text).take bookendWords) ++ " ... " ++
        " ".intercalate (lastOf bookendWords (words last.text))

end StandIn

end Recap
