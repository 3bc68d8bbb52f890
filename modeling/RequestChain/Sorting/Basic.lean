import RequestChain.Sorting.Merge

namespace RequestChain.Sorting

variable {α ε : Type}

/-- Splits off the elements that go on falling (`true`) or not falling after `last`. -/
def goingOn (before : Order ε α) (falling : Bool) (last : α) :
    List α → Except ε (List α × List α)
  | [] => .ok ([], [])
  | x :: xs => do
    if (← before x last) = falling then
      let (more, rest) ← goingOn before falling x xs
      return (x :: more, rest)
    else return ([], x :: xs)

/-- The longest run at the front, turned round if it falls, and the elements after it. -/
def naturalRun (before : Order ε α) : List α → Except ε (List α × List α)
  | [] => .ok ([], [])
  | [x] => .ok ([x], [])
  | x :: y :: rest => do
    let falling ← before y x
    let (more, rest) ← goingOn before falling y rest
    let run := x :: y :: more
    return (if falling then run.reverse else run, rest)

/-- Puts elements into an ordered run, one after another, each after those that are not above
it. -/
def insertAll (before : Order ε α) (run : Array α) : List α → Except ε (Array α)
  | [] => .ok run
  | x :: xs => do
    let i ← bisect (isBelow before x run) 0 run.size
    insertAll before (run.extract 0 i ++ #[x] ++ run.extract i run.size) xs

/-- The least length of a run: the leading six bits of the size, and one more if any bit after them
is set (`cut`). The number of runs is then a power of two or a little less. -/
def leastRun (cut : Bool) (size : Nat) : Nat :=
  if _h : size < 64 then size + cut.toNat else leastRun (cut || size % 2 == 1) (size / 2)
termination_by size

/-- The next run of a list, filled up to the least length, and the elements after it. -/
def nextRun (before : Order ε α) (least : Nat) (xs : List α) : Except ε (Array α × List α) := do
  let (run, rest) ← naturalRun before xs
  let missing := least - run.length
  return (← insertAll before run.toArray (rest.take missing), rest.drop missing)

/-- A run that waits to be merged, with its place in the list and the power of its border to the
run after it. -/
structure Run (α : Type) where
  place : Nat
  power : Nat
  elements : Array α

/-- The power of the border between two neighbouring runs in a list of `size` elements: the number
of binary digits after which the middles of the runs, as fractions of the size, differ. `a` and `b`
are twice the middles. -/
def borderPower (size : Nat) : Nat → Nat → Nat → Nat
  | 0, _, _ => 0
  | fuel + 1, a, b =>
    if size ≤ a then borderPower size fuel (2 * (a - size)) (2 * (b - size)) + 1
    else if size ≤ b then 1
    else borderPower size fuel (2 * a) (2 * b) + 1

/-- The pending runs, the last first, and the threshold of merging. -/
structure Pending (α : Type) where
  runs : List (Run α)
  threshold : Nat

/-- Merges the runs at the end of the list whose borders have more than the given power. -/
def mergeAbove (before : Order ε α) (power : Nat) :
    List (Run α) → Nat → Except ε (Pending α)
  | last :: previous :: earlier, threshold =>
    if power < previous.power then do
      let (elements, threshold) ←
        merge before previous.elements last.elements threshold
      mergeAbove before power ({ previous with elements } :: earlier) threshold
    else .ok ⟨last :: previous :: earlier, threshold⟩
  | runs, threshold => .ok ⟨runs, threshold⟩
termination_by runs => runs.length

def Pending.push (before : Order ε α) (size : Nat) (p : Pending α) (run : Array α) :
    Except ε (Pending α) := do
  match p.runs with
  | [] => return ⟨[⟨0, 0, run⟩], p.threshold⟩
  | last :: _ =>
    let a := 2 * last.place + last.elements.size
    let power := borderPower size (size + 1) a (a + last.elements.size + run.size)
    let p ← mergeAbove before power p.runs p.threshold
    match p.runs with
    | [] => return ⟨[⟨0, 0, run⟩], p.threshold⟩
    | last :: earlier =>
      let place := last.place + last.elements.size
      return ⟨⟨place, 0, run⟩ :: { last with power } :: earlier, p.threshold⟩

/-- Merges all pending runs, each time the shorter neighbour into the last run but one. -/
def mergeAll (before : Order ε α) : List (Run α) → Nat → Except ε (Array α)
  | [], _ => .ok #[]
  | [run], _ => .ok run.elements
  | [last, first], threshold => do
    return (← merge before first.elements last.elements threshold).1
  | last :: middle :: first :: earlier, threshold =>
    if first.elements.size < last.elements.size then do
      let (elements, threshold) ← merge before first.elements middle.elements threshold
      mergeAll before (last :: { first with elements } :: earlier) threshold
    else do
      let (elements, threshold) ← merge before middle.elements last.elements threshold
      mergeAll before ({ middle with elements } :: first :: earlier) threshold
termination_by runs => runs.length

def collect (before : Order ε α) (size least : Nat) :
    Nat → List α → Pending α → Except ε (Pending α)
  | 0, _, p | _, [], p => .ok p
  | fuel + 1, xs, p => do
    let (run, rest) ← nextRun before least xs
    collect before size least fuel rest (← p.push before size run)

/-- A stable sort for an order that may be partial or fail. For a total order every stable sort
gives the same list; for a partial one the list depends on which elements are compared. -/
def sort (before : Order ε α) (xs : List α) : Except ε (List α) := do
  let size := xs.length
  let p ← collect before size (leastRun false size) size xs ⟨[], longStretch⟩
  return (← mergeAll before p.runs p.threshold).toList

end RequestChain.Sorting
