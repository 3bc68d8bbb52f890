import RequestChain.Sorting.Gallop

namespace RequestChain.Sorting

variable {α ε : Type}

abbrev Order (ε α : Type) := α → α → Except ε Bool

def longStretch : Nat := 7

/-- The elements of a merge and the threshold after it: how many elements one run has to supply in a
row before whole stretches are looked for. It falls while stretches are long. -/
abbrev Merged (α : Type) := Array α × Nat

def isBelow (before : Order ε α) (x : α) (run : Array α) : Test ε := fun i =>
  match run[i]? with
  | some y => before x y
  | none => .ok false

def isNotAbove (before : Order ε α) (x : α) (run : Array α) : Test ε := fun i =>
  match run[i]? with
  | some y => return !(← before y x)
  | none => .ok true

namespace Forward

def finish (left right : Array α) (i j : Nat) (done : Array α) (threshold : Nat) : Merged α :=
  (done ++ left.extract i left.size ++ right.extract j right.size, threshold)

def finishLeft (left right : Array α) (i j : Nat) (done : Array α) (threshold : Nat) : Merged α :=
  (done ++ right.extract j right.size ++ left.extract i left.size, threshold)

mutual

/-- Takes one element at a time. `wins` elements in a row have come from one run, the right one if
`byRight`. -/
def pairs (before : Order ε α) (left right : Array α) : Nat → Nat → Nat → Array α → Nat →
    Bool → Nat → Except ε (Merged α)
  | 0, i, j, done, threshold, _, _ => .ok (finish left right i j done threshold)
  | fuel + 1, i, j, done, threshold, byRight, wins =>
    match left[i]?, right[j]? with
    | some x, some y => do
      if ← before y x then
        let wins := if byRight then wins + 1 else 1
        let done := done.push y
        if j + 1 = right.size then return finish left right i (j + 1) done threshold
        else if threshold ≤ wins then
          stretches before left right fuel i (j + 1) done (threshold + 1)
        else pairs before left right fuel i (j + 1) done threshold true wins
      else
        let wins := if byRight then 1 else wins + 1
        let done := done.push x
        if i + 2 = left.size then return finishLeft left right (i + 1) j done threshold
        else if threshold ≤ wins then
          stretches before left right fuel (i + 1) j done (threshold + 1)
        else pairs before left right fuel (i + 1) j done threshold false wins
    | _, _ => .ok (finish left right i j done threshold)

def stretches (before : Order ε α) (left right : Array α) : Nat → Nat → Nat → Array α → Nat →
    Except ε (Merged α)
  | 0, i, j, done, threshold => .ok (finish left right i j done threshold)
  | fuel + 1, i, j, done, threshold =>
    match right[j]? with
    | none => .ok (finish left right i j done threshold)
    | some y => do
      let threshold := if 1 < threshold then threshold - 1 else threshold
      let k ← gallop (fun n => isBelow before y left (i + n)) (left.size - i) 0
      let done := done ++ left.extract i (i + k)
      let i := i + k
      if i + 1 = left.size then return finishLeft left right i j done threshold
      match left[i]? with
      | none => return finish left right i j done threshold
      | some x =>
        let done := done.push y
        let j := j + 1
        if j = right.size then return finish left right i j done threshold
        let l ← gallop (fun n => isNotAbove before x right (j + n)) (right.size - j) 0
        let done := done ++ right.extract j (j + l)
        let j := j + l
        if j = right.size then return finish left right i j done threshold
        let done := done.push x
        let i := i + 1
        if i + 1 = left.size then return finishLeft left right i j done threshold
        else if longStretch ≤ k ∨ longStretch ≤ l then
          stretches before left right fuel i j done threshold
        else pairs before left right fuel i j done (threshold + 1) false 0

end

/-- Merges two runs from their fronts; the front of the right run is known to come first. -/
def merge (before : Order ε α) (left right : Array α) (threshold : Nat) :
    Except ε (Merged α) :=
  let done := right.extract 0 1
  if right.size = 1 then .ok (finish left right 0 1 done threshold)
  else if left.size = 1 then .ok (finishLeft left right 0 1 done threshold)
  else pairs before left right (left.size + right.size) 0 1 done threshold false 0

end Forward

namespace Backward

def finish (left right : Array α) (i j : Nat) (done : List α) (threshold : Nat) : Merged α :=
  (left.extract 0 i ++ right.extract 0 j ++ done.toArray, threshold)

def finishRight (left right : Array α) (i j : Nat) (done : List α) (threshold : Nat) : Merged α :=
  (right.extract 0 j ++ left.extract 0 i ++ done.toArray, threshold)

mutual

/-- Takes one element at a time from the ends: `i` elements of the left run and `j` of the right
run are left. `wins` elements in a row have come from one run, the right one if `byRight`. -/
def pairs (before : Order ε α) (left right : Array α) : Nat → Nat → Nat → List α → Nat →
    Bool → Nat → Except ε (Merged α)
  | 0, i, j, done, threshold, _, _ => .ok (finish left right i j done threshold)
  | fuel + 1, i, j, done, threshold, byRight, wins =>
    match left[i - 1]?, right[j - 1]? with
    | some x, some y => do
      if ← before y x then
        let wins := if byRight then 1 else wins + 1
        if i = 1 then return finish left right 0 j (x :: done) threshold
        else if threshold ≤ wins then
          stretches before left right fuel (i - 1) j (x :: done) (threshold + 1)
        else pairs before left right fuel (i - 1) j (x :: done) threshold false wins
      else
        let wins := if byRight then wins + 1 else 1
        if j = 2 then return finishRight left right i 1 (y :: done) threshold
        else if threshold ≤ wins then
          stretches before left right fuel i (j - 1) (y :: done) (threshold + 1)
        else pairs before left right fuel i (j - 1) (y :: done) threshold true wins
    | _, _ => .ok (finish left right i j done threshold)

def stretches (before : Order ε α) (left right : Array α) : Nat → Nat → Nat → List α → Nat →
    Except ε (Merged α)
  | 0, i, j, done, threshold => .ok (finish left right i j done threshold)
  | fuel + 1, i, j, done, threshold =>
    match right[j - 1]? with
    | none => .ok (finish left right i j done threshold)
    | some y => do
      let threshold := if 1 < threshold then threshold - 1 else threshold
      let k ← gallop (isBelow before y left) i (i - 1)
      let done := (left.extract k i).toList ++ done
      let kept := i - k
      let i := k
      if i = 0 then return finish left right i j done threshold
      let done := y :: done
      let j := j - 1
      if j = 1 then return finishRight left right i j done threshold
      match left[i - 1]? with
      | none => return finish left right i j done threshold
      | some x =>
        let l ← gallop (isNotAbove before x right) j (j - 1)
        let done := (right.extract l j).toList ++ done
        let given := j - l
        let j := l
        if j = 1 then return finishRight left right i j done threshold
        if j = 0 then return finish left right i j done threshold
        let done := x :: done
        let i := i - 1
        if i = 0 then return finish left right i j done threshold
        else if longStretch ≤ kept ∨ longStretch ≤ given then
          stretches before left right fuel i j done threshold
        else pairs before left right fuel i j done (threshold + 1) false 0

end

/-- Merges two runs from their ends; the end of the left run is known to come last. -/
def merge (before : Order ε α) (left right : Array α) (threshold : Nat) :
    Except ε (Merged α) :=
  let i := left.size - 1
  let done := (left.extract i left.size).toList
  if i = 0 then .ok (finish left right i right.size done threshold)
  else if right.size = 1 then .ok (finishRight left right i right.size done threshold)
  else pairs before left right (left.size + right.size) i right.size done threshold false 0

end Backward

/-- Merges two runs. What is in place at both ends stays there; the rest is merged from the side of
the shorter part. -/
def merge (before : Order ε α) (left right : Array α) (threshold : Nat) :
    Except ε (Merged α) :=
  match right[0]?, left.back? with
  | some first, some last => do
    let i ← gallop (isBelow before first left) left.size 0
    if i = left.size then return (left ++ right, threshold)
    let j ← gallop (isNotAbove before last right) right.size (right.size - 1)
    if j = 0 then return (left ++ right, threshold)
    let a := left.extract i left.size
    let b := right.extract 0 j
    let (middle, threshold) ←
      if a.size ≤ b.size then Forward.merge before a b threshold
      else Backward.merge before a b threshold
    return (left.extract 0 i ++ middle ++ right.extract j right.size, threshold)
  | _, _ => .ok (left ++ right, threshold)

end RequestChain.Sorting
