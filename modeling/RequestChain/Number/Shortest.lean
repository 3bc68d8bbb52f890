import RequestChain.Number.Double

namespace RequestChain

structure Scientific where
  digits : Nat
  exponent : Int

/-- The power `k` with `10 ^ k ≤ num / den < 10 ^ (k + 1)`, both positive. -/
def tenExponent (num den : Nat) : Int :=
  if den ≤ num then (Nat.toDigits 10 (num / den)).length - 1
  else -(Nat.toDigits 10 ((den + num - 1) / num - 1)).length

/-- The real numbers that round to a positive double: `low / den` to `high / den` around
`center / den`, ends included if `closed`. -/
structure Interval where
  low : Nat
  center : Nat
  high : Nat
  den : Nat
  closed : Bool

namespace Interval

/-- The interval of `m · 2 ^ e`. Below a power of two the neighbour is half as far away. -/
def ofDouble (m : Nat) (e : Int) : Interval :=
  let below := if m = Nat.pow 2 52 ∧ Double.minExponent < e then 1 else 2
  let (unit, den) := overPowerOfTwo 1 1 (2 - e)
  ⟨(4 * m - below) * unit, 4 * m * unit, (4 * m + 2) * unit, den, m % 2 == 0⟩

def inUnits (i : Interval) (p : Int) : Interval :=
  if 0 ≤ p then { i with den := i.den * Nat.pow 10 p.toNat }
  else
    let f := Nat.pow 10 (-p).toNat
    { i with low := i.low * f, center := i.center * f, high := i.high * f }

def holds (i : Interval) (c : Nat) : Bool :=
  let x := c * i.den
  if i.closed then decide (i.low ≤ x ∧ x ≤ i.high) else decide (i.low < x ∧ x < i.high)

/-- Of the two whole numbers around the center, the one in the interval; of two, the nearer, and
of two equally near, the even one. -/
def nearest? (i : Interval) : Option Nat :=
  let c := i.center / i.den
  let below := i.center - c * i.den
  let above := (c + 1) * i.den - i.center
  let first := if below < above ∨ (below = above ∧ c % 2 = 0) then c else c + 1
  let second := if first = c then c + 1 else c
  if i.holds first then some first else if i.holds second then some second else none

end Interval

/-- The shortest decimal that reads back as the positive double `m · 2 ^ e`: the first of 1, 2, …
17 digits with which one of the neighbours on that grid does. -/
def shortest (m : Nat) (e : Int) : Scientific :=
  let i := Interval.ofDouble m e
  let k := tenExponent i.center i.den
  let found := (List.range 17).findSome? fun (n : Nat) =>
    let p := k - n
    (i.inUnits p).nearest?.map fun c => ⟨c, p⟩
  found.getD ⟨0, 0⟩

structure FloatWords where
  nan : String
  infinity : String

/-- Decimal digits `ds` with the first one at the power `k` of ten: positional for `-4 ≤ k < 16`,
with at least one digit on each side of the point, else with an exponent of two digits or more. -/
def layDigits (ds : List Char) (k : Int) : List Char :=
  if -4 ≤ k ∧ k < 0 then
    '0' :: '.' :: List.replicate (-k - 1).toNat '0' ++ ds
  else if 0 ≤ k ∧ k < 16 then
    let whole := k.toNat + 1
    let left := ds.take whole ++ List.replicate (whole - ds.length) '0'
    let right := ds.drop whole
    left ++ '.' :: (if right.isEmpty then ['0'] else right)
  else
    let exp := Nat.toDigits 10 k.natAbs
    let exp := if exp.length < 2 then '0' :: exp else exp
    ds.take 1 ++ (if ds.length ≤ 1 then [] else '.' :: ds.drop 1) ++
      'e' :: (if k < 0 then '-' else '+') :: exp

namespace Double

def chars (words : FloatWords) : Double → List Char
  | .nan => words.nan.toList
  | .infinite negative => (if negative then ['-'] else []) ++ words.infinity.toList
  | .finite negative m e =>
    let body :=
      if m = 0 then ['0', '.', '0']
      else
        let s := shortest m e
        let ds := Nat.toDigits 10 s.digits
        let kept := (ds.reverse.dropWhile (· == '0')).reverse
        layDigits kept (s.exponent + ds.length - 1)
    (if negative then ['-'] else []) ++ body

end Double
end RequestChain
