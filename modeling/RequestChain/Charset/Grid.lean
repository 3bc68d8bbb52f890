import RequestChain.Text.Decoded

namespace RequestChain.Charset

/-- A grid. A row lists its characters in order, with U+FFFD for a cell that is empty; rows and
columns are counted from zero. -/
structure Grid where
  rows : Array String

namespace Grid

def char? (g : Grid) (row column : Nat) : Option Char :=
  (g.rows[row]?).bind fun s => (s.toList[column]?).filter (· ≠ Text.Decoded.replacement)

def members (g : Grid) : List Char :=
  g.rows.toList.flatMap fun s => s.toList.filter (· ≠ Text.Decoded.replacement)

/-- The characters from one number to another that a grid leaves out, in ascending order. -/
def missing (g : Grid) (first last : Nat) : Array Char :=
  let all := Array.replicate (last + 1 - first) true
  let left := g.members.foldl (fun left c =>
    if first ≤ c.toNat then left.setIfInBounds (c.toNat - first) false else left) all
  (Array.range left.size).filterMap fun i =>
    if left[i]? = some true then some (Char.ofNat (first + i)) else none

/-- The place of a byte that stands for a row or a column by its lower bits and has the highest one
set. -/
def place? (byte : Nat) : Option Nat :=
  if 0xA1 ≤ byte ∧ byte ≤ 0xFE then some (byte - 0xA1) else none

def marked? (g : Grid) (lead trail : Nat) : Option Char := do
  g.char? (← place? lead) (← place? trail)

end Grid
end RequestChain.Charset
