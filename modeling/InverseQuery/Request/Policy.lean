/-! Whether inverse queries are answered at all. -/

namespace InverseQuery

/-- The switch for inverse queries, off unless it is turned on. -/
structure Policy where
  enabled : Bool := false
  deriving Repr, DecidableEq

/-- Every flag but zero turns inverse queries on. -/
def Policy.ofFlag (flag : Int) : Policy := ⟨decide (flag ≠ 0)⟩

end InverseQuery
