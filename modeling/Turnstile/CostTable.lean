/-
What calls cost.

A cost table prices tools by name, with a price for all others.  Prices that are not
positive count as unset, so that every call costs at least one unit
(`CostTable.costOf_pos`).
-/
import Turnstile.Text.Quoted

namespace Turnstile

/-- Prices of tools, sorted by name, and the price of every other tool. -/
structure CostTable where
  default : Int
  tools : List (String × Int)
deriving DecidableEq, Repr

namespace CostTable

/-- A table that prices every tool alike. -/
def uniform (cost : Int) : CostTable := ⟨cost, []⟩

/-- A price, if it is set: anything that is not positive is not. -/
def positive? (cost : Int) : Option Int := if 0 < cost then some cost else none

/-- What a call of a tool costs: its own price, else the price of the others, else one. -/
def costOf (t : CostTable) (tool : String) : Int :=
  ((t.tools.lookup tool).bind positive?).getD ((positive? t.default).getD 1)

theorem positive?_pos {cost n : Int} (h : positive? cost = some n) : 0 < n := by
  unfold positive? at h
  split at h <;> simp_all

/-- Every call costs something. -/
theorem costOf_pos (t : CostTable) (tool : String) : 0 < t.costOf tool := by
  unfold costOf
  cases h : (t.tools.lookup tool).bind positive? with
  | some n =>
    obtain ⟨c, -, hc⟩ := Option.bind_eq_some_iff.1 h
    exact positive?_pos hc
  | none =>
    cases h' : positive? t.default with
    | some n => exact positive?_pos h'
    | none => decide

/-- The description of a table in diagnostics. -/
def describe (t : CostTable) : String :=
  "CostTable \x7b default_unit_cost: " ++ toString t.default ++ ", tools: \x7b" ++
    ", ".intercalate (t.tools.map fun (name, cost) => Text.quoted name ++ ": " ++ toString cost) ++
    "\x7d \x7d"

end CostTable

end Turnstile
