/-!
# Limits

A search that tries every possibility can take very long and nest very deeply.  Limits turn both
into errors.
-/

namespace Backtracking

/-- The limits of a search: how deeply attempts may be nested, and how many steps one search may
take, if there is a bound at all. -/
structure Limits where
  maxDepth : Nat := 512
  maxSteps : Option Nat := none
deriving DecidableEq, Inhabited

end Backtracking
