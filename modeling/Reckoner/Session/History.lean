/-!
The history of a session: its successful evaluations, newest first, as many as its limit allows.
-/

namespace Reckoner

structure Entry where
  input : String
  result : String
deriving DecidableEq, Repr

structure History where
  limit : Int
  entries : List Entry := []
deriving DecidableEq, Repr

namespace History

/-- The first elements of a list up to a limit. A negative limit leaves out as many elements at the
end, so with it a history never grows. -/
def upTo {α : Type} (limit : Int) (xs : List α) : List α :=
  if 0 ≤ limit then xs.take limit.toNat else xs.take (xs.length - limit.natAbs)

def add (entry : Entry) (history : History) : History :=
  { history with entries := upTo history.limit (entry :: history.entries) }

/-- The entry at an index; a negative index counts from the oldest entry. Beyond the entries on
either side there is none. -/
def get? (index : Int) (history : History) : Option Entry :=
  if 0 ≤ index then history.entries[index.toNat]?
  else if index.natAbs ≤ history.entries.length then
    history.entries[history.entries.length - index.natAbs]?
  else none

end History

end Reckoner
