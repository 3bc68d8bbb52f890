import RequestChain.Path.Grammar
import RequestChain.Path.Order
import RequestChain.Sorting.Basic
import RequestChain.Text.Pattern.Grammar

namespace RequestChain

/-- A value and its containers, the nearest first. -/
structure Node where
  value : Json
  ancestors : List Json

namespace Node

def whole (v : Json) : Node := ⟨v, []⟩

def child (n : Node) (v : Json) : Node := ⟨v, n.value :: n.ancestors⟩

def root (n : Node) : Node := whole (n.ancestors.getLast?.getD n.value)

def parent (n : Node) : Except PathFault Node :=
  match n.ancestors with
  | [] => .error .noParent
  | v :: vs => .ok ⟨v, vs⟩

def children (n : Node) : List Node :=
  match n.value with
  | .arr items => items.map n.child
  | .obj members => members.map fun m => n.child m.2
  | _ => []

def members (n : Node) (names : List String) : List Node :=
  names.filterMap fun name => (n.value.get? name).map n.child

def elements (n : Node) : List Json :=
  match n.value with
  | .arr items => items
  | _ => []

def position? (size : Nat) (i : Int) : Option Nat :=
  let i := if i < 0 then i + size else i
  if 0 ≤ i ∧ i < size then some i.toNat else none

def indices (n : Node) (is : List Int) : List Node :=
  is.filterMap fun i => do
    let p ← position? n.elements.length i
    let v ← n.elements[p]?
    return n.child v

/-- A bound of a slice, counted from the end if negative, moved into the range. -/
def bound (size : Nat) (low high : Int) (i : Int) : Int :=
  max low (min high (if i < 0 then i + size else i))

/-- The positions of a slice: from `first` by `step` and before `last`. -/
def slicePositions (size : Nat) (first last step : Option Int) : List Nat :=
  let step := step.getD 1
  if step = 0 then []
  else
    let (low, high) : Int × Int := if step < 0 then (-1, size - 1) else (0, size)
    let (start, stop) := if step < 0 then (high, low) else (low, high)
    let start := (first.map (bound size low high)).getD start
    let stop := (last.map (bound size low high)).getD stop
    let span := if step < 0 then start - stop else stop - start
    let count := (span + step.natAbs - 1).toNat / step.natAbs
    (List.range count).map fun (k : Nat) => (start + step * k).toNat

def slice (n : Node) (first last step : Option Int) : List Node :=
  (slicePositions n.elements.length first last step).filterMap fun p => n.elements[p]?.map n.child

mutual

/-- A value with the given containers and all its descendants, each before what it contains. -/
def walk (ancestors : List Json) : Json → List Node
  | .arr items => ⟨.arr items, ancestors⟩ :: walkItems (.arr items :: ancestors) items
  | .obj members => ⟨.obj members, ancestors⟩ :: walkMembers (.obj members :: ancestors) members
  | .null => [⟨.null, ancestors⟩]
  | .bool b => [⟨.bool b, ancestors⟩]
  | .int i => [⟨.int i, ancestors⟩]
  | .float x => [⟨.float x, ancestors⟩]
  | .str s => [⟨.str s, ancestors⟩]

def walkItems (ancestors : List Json) : List Json → List Node
  | [] => []
  | v :: vs => walk ancestors v ++ walkItems ancestors vs

def walkMembers (ancestors : List Json) : List (String × Json) → List Node
  | [] => []
  | (_, v) :: ms => walk ancestors v ++ walkMembers ancestors ms

end

def descend (n : Node) : List Node := walk n.ancestors n.value

def length (n : Node) : List Node :=
  let count? : Option Nat :=
    match n.value with
    | .arr items => some items.length
    | .obj members => some members.length
    | .str s => some s.length
    | _ => none
  count?.toList.map fun (k : Nat) => whole (.int k)

def names (n : Node) : List Node := n.value.members.map fun m => whole (.str m.1)

def isContainer (n : Node) : Bool :=
  match n.value with
  | .arr _ | .obj _ => true
  | _ => false

def sorted (n : Node) : Except PathFault (List Node) :=
  match n.value with
  | .arr items => do return [whole (.arr (← Sorting.sort Json.before items))]
  | .obj members => do
    return [whole (.arr (← Sorting.sort Json.before (members.map fun m => .str m.1)))]
  | _ => .error .notSortable

end Node

namespace Comparison

/-- A comparison of two values, either of which may be absent. Two absent values are equal; a value
and an absent one are not. -/
def holds (op : Comparison) (a b : Option Json) : Except PathFault Bool :=
  let equal :=
    match a, b with
    | none, none => true
    | some a, some b => a.equalInFilter b
    | _, _ => false
  let below (a b : Option Json) :=
    match a, b with
    | some a, some b => a.lessThan b
    | _, _ => false
  match op with
  | .equal => .ok equal
  | .unequal => .ok !equal
  | .less => .ok (below a b)
  | .atMost => .ok (below a b || equal)
  | .greater => .ok (below b a)
  | .atLeast => .ok (below b a || equal)
  | .resembles =>
    match a, b with
    | some (.str text), some (.str pattern) =>
      match Text.Pattern.parse? pattern with
      | some p => .ok (p.occursIn text)
      | none => .error .badPattern
    | some (.str _), some _ => .error .badPattern
    | _, _ => .ok false

/-- The comparison holds for one of several left values, or for an absent one if there is none. -/
def holdsForAny (op : Comparison) (lefts : List Node) (right : Option Json) :
    Except PathFault Bool :=
  if lefts.isEmpty then op.holds none right
  else lefts.anyM fun n => op.holds (some n.value) right

end Comparison

def reachAll (step : Node → Except PathFault (List Node)) :
    List Node → Except PathFault (List Node)
  | [] => .ok []
  | n :: ns => do
    let first ← step n
    let more ← reachAll step ns
    return first ++ more

def keepIf (test : Node → Except PathFault Bool) : List Node → Except PathFault (List Node)
  | [] => .ok []
  | n :: ns => do
    let kept ← test n
    let more ← keepIf test ns
    return if kept then n :: more else more

mutual

def Segment.reach : Segment → Node → Except PathFault (List Node)
  | .root, n => .ok [n.root]
  | .here, n => .ok [n]
  | .members names, n => .ok (n.members names)
  | .children, n => .ok n.children
  | .indices is, n => .ok (n.indices is)
  | .slice first last step, n => .ok (n.slice first last step)
  | .descend, n => .ok n.descend
  | .parent, n => do return [← n.parent]
  | .length, n => .ok n.length
  | .names, n => .ok n.names
  | .sorted, n => n.sorted
  | .sortedBy orders, n =>
    match n.value with
    | .arr items => do
      return [Node.whole (.arr (← Sorting.sort (precedes orders) items))]
    | _ => .error .notSortable
  | .filter condition, n =>
    let standing (m : Node) : Node := if condition.asksRoot then m else Node.whole m.value
    keepIf (fun m => condition.holds (standing m)) n.children

def Path.reach : List Segment → Node → Except PathFault (List Node)
  | [], n => .ok [n]
  | segment :: rest, n => do reachAll (Path.reach rest) (← segment.reach n)

/-- Something stands at the path. A value that has no elements to sort counts as its own order. -/
def Path.reachesAny : List Segment → Node → Except PathFault Bool
  | [.sorted], n => if n.isContainer then return !(← n.sorted).isEmpty else return true
  | path, n => do return !(← Path.reach path n).isEmpty

def Condition.holds : Condition → Node → Except PathFault Bool
  | .present path, n => Path.reachesAny path n
  | .absent path, n => do return !(← Path.reachesAny path n)
  | .compare left op right, n => do
    op.holdsForAny (← Path.reach left n) (← right.value n)
  | .both a b, n => do
    if ← a.holds n then b.holds n else return false
  | .either a b, n => do
    if ← a.holds n then return true else b.holds n

def Operand.value : Operand → Node → Except PathFault (Option Json)
  | .literal v, _ => .ok (some v)
  | .query path, n => do return ((← Path.reach path n).head?).map Node.value

/-- One element belongs before another by the first order that tells them apart. An order whose
path does not select exactly one value in both tells nothing. -/
def precedes : List (Bool × List Segment) → Json → Json → Except PathFault Bool
  | [], _, _ => .ok false
  | (descending, path) :: orders, a, b => do
    let left ← Path.reach path (Node.whole a)
    let right ← Path.reach path (Node.whole b)
    match left, right with
    | [x], [y] =>
      if x.value.equal y.value then precedes orders a b
      else return (← x.value.before y.value) != descending
    | _, _ => precedes orders a b

end

def Path.select (path : List Segment) (document : Json) : Except PathFault (List Json) := do
  return (← Path.reach path (Node.whole document)).map Node.value

end RequestChain
