import RequestChain.Text.Blank
import RequestChain.Text.Digit

namespace RequestChain.Whole

def maxDigits : Nat := 4300

def digits? : List Char → Option (List Char)
  | [] => none
  | [c] => if Text.isDigit c then some [c] else none
  | c :: '_' :: rest => if Text.isDigit c then (digits? rest).map (c :: ·) else none
  | c :: rest => if Text.isDigit c then (digits? rest).map (c :: ·) else none

def underscoresDivide (cs : List Char) : Bool := cs.head? ≠ some '_' && after cs
where
  /-- No underscore is followed by another, or by nothing. -/
  after : List Char → Bool
    | [] => true
    | ['_'] => false
    | '_' :: '_' :: _ => false
    | _ :: rest => after rest

def isSpace (c : Char) : Bool := Text.isBlank c && !(28 ≤ c.toNat && c.toNat < 32)

def sign : List Char → Bool × List Char
  | '-' :: cs => (true, cs)
  | '+' :: cs => (false, cs)
  | cs => (false, cs)

def signed (negative : Bool) (n : Nat) : Int := if negative then -(n : Int) else n

def ofChars? (cs : List Char) : Option Int := do
  let (negative, cs) := sign cs
  let ds ← digits? cs
  if ds.length ≤ maxDigits then return signed negative (Text.ofDigits ds) else none

def read? (s : String) : Option Int := ofChars? (Text.trim Text.isBlank s.toList)

end RequestChain.Whole
