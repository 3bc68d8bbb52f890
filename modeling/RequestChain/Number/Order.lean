import RequestChain.Number.Double

namespace RequestChain

/-- A place on the real line with both ends added. A ratio has a positive denominator. -/
inductive ExtendedRatio where
  | lowest
  | ratio (num : Int) (den : Nat)
  | highest

namespace ExtendedRatio

def ofInt (n : Int) : ExtendedRatio := .ratio n 1

def ofDouble? : Double → Option ExtendedRatio
  | .nan => none
  | .infinite true => some .lowest
  | .infinite false => some .highest
  | .finite negative m e =>
    let (n, d) := overPowerOfTwo m 1 (-e)
    some (.ratio (if negative then -(n : Int) else n) d)

def less : ExtendedRatio → ExtendedRatio → Bool
  | _, .lowest => false
  | .lowest, _ => true
  | .highest, _ => false
  | _, .highest => true
  | .ratio a b, .ratio c d => decide (a * d < c * b)

def same : ExtendedRatio → ExtendedRatio → Bool
  | .lowest, .lowest => true
  | .highest, .highest => true
  | .ratio a b, .ratio c d => decide (a * d = c * b)
  | _, _ => false

end ExtendedRatio
end RequestChain
