import RequestChain.Text.Decoded

namespace RequestChain.Charset

/-- Characters of pairs with one leading byte and second bytes in order. -/
structure Stretch where
  lead : Nat
  trail : Nat
  characters : String

namespace Stretch

def place? (trail : Nat) : Option Nat :=
  if 0x40 ≤ trail ∧ trail ≤ 0x7E then some (trail - 0x40)
  else if 0x80 ≤ trail ∧ trail ≤ 0xFE then some (trail - 0x41)
  else none

def char? (stretches : List Stretch) (lead trail : Nat) : Option Char :=
  stretches.findSome? fun s => do
    let place ← place? trail
    let first ← place? s.trail
    if s.lead = lead ∧ first ≤ place then
      (s.characters.toList[place - first]?).filter (· ≠ Text.Decoded.replacement)
    else none

end Stretch
end RequestChain.Charset
