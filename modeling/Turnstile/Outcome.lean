/-
How a call ends.
-/
namespace Turnstile

/-- How a call ended: with an answer, with an error, or not at all, because a value it needed
cannot be had: an instant past the calendar, or the text of a variable that is no text. -/
inductive Outcome (ε α : Type)
  | ok (a : α)
  | error (e : ε)
  | crashed
deriving DecidableEq, Repr

end Turnstile
