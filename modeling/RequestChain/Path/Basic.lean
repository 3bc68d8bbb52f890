import RequestChain.Json.Basic
import RequestChain.Path.Token

namespace RequestChain

mutual

/-- A segment of a path takes a node to the nodes that it reaches. `X..Y` is `X`, a descent to all
descendants, and `Y`. -/
inductive Segment where
  | root
  | here
  /-- The members of the names, in the order of the names. -/
  | members (names : List String)
  | children
  /-- The elements at the indices, counted from the end if negative. -/
  | indices (is : List Int)
  /-- Every `step`-th element from `first` on and before `last`. -/
  | slice (first last step : Option Int)
  | descend
  | parent
  | length
  | names
  | sorted
  /-- The elements in order of what the paths select in them; `true` for descending order. -/
  | sortedBy (orders : List (Bool × List Segment))
  | filter (condition : Condition)

inductive Condition where
  | present (path : List Segment)
  | absent (path : List Segment)
  | compare (left : List Segment) (op : Comparison) (right : Operand)
  | both (a b : Condition)
  | either (a b : Condition)

inductive Operand where
  | literal (v : Json)
  | query (path : List Segment)

end

abbrev Path := List Segment

mutual

def Segment.asksRoot : Segment → Bool
  | .root => true
  | .sortedBy orders => ordersAskRoot orders
  | .filter condition => condition.asksRoot
  | _ => false

def Path.asksRoot : List Segment → Bool
  | [] => false
  | segment :: rest => segment.asksRoot || Path.asksRoot rest

def ordersAskRoot : List (Bool × List Segment) → Bool
  | [] => false
  | (_, path) :: orders => Path.asksRoot path || ordersAskRoot orders

def Condition.asksRoot : Condition → Bool
  | .present path | .absent path => Path.asksRoot path
  | .compare left _ right => Path.asksRoot left || right.asksRoot
  | .both a b | .either a b => a.asksRoot || b.asksRoot

def Operand.asksRoot : Operand → Bool
  | .literal _ => false
  | .query path => Path.asksRoot path

end

end RequestChain
