namespace RequestChain.Sorting

variable {ε : Type}

/-- A test of positions. As it may fail, a search tests no position that it need not visit. -/
abbrev Test (ε : Type) := Nat → Except ε Bool

def bisect (test : Test ε) (low high : Nat) : Except ε Nat :=
  if _h : low < high then do
    let middle := low + (high - low) / 2
    if ← test middle then bisect test low middle else bisect test (middle + 1) high
  else .ok low
termination_by high - low

/-- Doubles the stride as long as the test passes and the stride is below `limit`; the last stride
that passed and the next one, at most `limit`. -/
def stride (test : Test ε) (limit last next : Nat) : Except ε (Nat × Nat) :=
  if _h : next < limit then do
    if ← test next then stride test limit next (2 * next + 1) else return (last, next)
  else .ok (last, limit)
termination_by limit - next

/-- The first of `size` positions that passes, searched from the position `hint` outwards; `size`
if none does. -/
def gallop (test : Test ε) (size hint : Nat) : Except ε Nat := do
  if ← test hint then
    let (near, far) ← stride (fun k => test (hint - k)) (hint + 1) 0 1
    bisect test (hint + 1 - far) (hint - near)
  else
    let (near, far) ← stride (fun k => return !(← test (hint + k))) (size - hint) 0 1
    bisect test (hint + near + 1) (hint + far)

end RequestChain.Sorting
