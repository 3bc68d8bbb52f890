namespace RequestChain

/-- Why a path selects nothing, not even an empty list. -/
inductive PathFault where
  | badCharacter (c : Char)
  | openQuote
  | hugeNumber
  | unexpected
  | unknownOperator (name : String)
  /-- The step to the container of a value that has none. -/
  | noParent
  | notSortable
  /-- Sorting values that have no common order. -/
  | incomparable
  | badPattern
  deriving DecidableEq

/-- Faults of a path are reported without detail. -/
def PathFault.message (_ : PathFault) : String := "JSONPATH_ERROR"

end RequestChain
