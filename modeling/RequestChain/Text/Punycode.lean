namespace RequestChain.Text.Punycode

def digit (n : Nat) : Char := if n < 26 then Char.ofNat (97 + n) else Char.ofNat (48 + (n - 26))

/-- The least value that ends a number at a digit of weight index `k`, between 1 and 26. -/
def threshold (bias k : Nat) : Nat := min 26 (max 1 (k - bias))

def number (bias k n : Nat) : List Char :=
  let t := threshold bias k
  if n < t then [digit n]
  else digit (t + (n - t) % (36 - t)) :: number bias (k + 36) ((n - t) / (36 - t))
termination_by n
decreasing_by
  have h1 : 1 ≤ threshold bias k := Nat.le_min.2 ⟨by decide, Nat.le_max_left 1 _⟩
  exact Nat.lt_of_le_of_lt (Nat.div_le_self _ _) (by omega)

def scale (step count : Nat) : Nat × Nat :=
  if 455 < step then scale (step / 35) (count + 1) else (step, count)
termination_by step

/-- The bias for the next number, from the step just written and the number of characters that
are then in place. -/
def nextBias (step placed : Nat) (first : Bool) : Nat :=
  let step := if first then step / 700 else step / 2
  let (step, count) := scale (step + step / placed) 0
  36 * count + 36 * step / (step + 38)

structure Progress where
  digits : List Char
  step : Nat
  bias : Nat
  placed : Nat

/-- Passes over one character of the label while the characters of the code point `n` are put in
place. -/
def pass (basic n : Nat) (p : Progress) (c : Char) : Progress :=
  if c.toNat < n then { p with step := p.step + 1 }
  else if c.toNat = n then
    ⟨p.digits ++ number p.bias 36 p.step, 0, nextBias p.step (p.placed + 1) (p.placed == basic),
      p.placed + 1⟩
  else p

def insertAll (label : List Char) (basic : Nat) : List Nat → Nat → Progress → Progress
  | [], _, p => p
  | n :: rest, last, p =>
    let p := { p with step := p.step + (n - last) * (p.placed + 1) }
    let p := label.foldl (pass basic n) p
    insertAll label basic rest (n + 1) { p with step := p.step + 1 }

/-- The label in ASCII, without a mark that it is so written. Its ASCII characters come first; the
others follow as numbers that say, in the order of their code points, how far on each is inserted.
-/
def encode (label : List Char) : List Char :=
  let basic := label.filter (·.toNat < 0x80)
  let others := ((label.map Char.toNat).filter (0x80 ≤ ·)).mergeSort.eraseDups
  let done := insertAll label basic.length others 0x80 ⟨[], 0, 72, basic.length⟩
  basic ++ (if basic.isEmpty then [] else ['-']) ++ done.digits

def value? (c : Char) : Option Nat :=
  if 'a' ≤ c ∧ c ≤ 'z' then some (c.toNat - 97)
  else if 'A' ≤ c ∧ c ≤ 'Z' then some (c.toNat - 65)
  else if '0' ≤ c ∧ c ≤ '9' then some (c.toNat - 22)
  else none

def readNumber? (bias : Nat) : Nat → Nat → Nat → List Char → Option (Nat × List Char)
  | _, _, _, [] => none
  | k, weight, sum, c :: cs => do
    let d ← value? c
    let t := threshold bias k
    if d < t then return (sum + d * weight, cs)
    else readNumber? bias (k + 36) (weight * (36 - t)) (sum + d * weight) cs

/-- Inserts characters into a label: `code` is the last one's number, and `place` the place after
it. Each number takes one of `fuel`. Also tells whether all numbers could be read. A number beyond
all characters is given another one, if there is one for that. -/
def readInsertions (stand : Option Nat) : Nat → (bias code place : Nat) → (first : Bool) →
    List Char → List Char → List Char × Bool
  | _, _, _, _, _, [], label => (label, true)
  | 0, _, _, _, _, _, label => (label, false)
  | fuel + 1, bias, code, place, first, cs, label =>
    match readNumber? bias 36 1 0 cs with
    | none => (label, false)
    | some (step, rest) =>
      let size := label.length + 1
      let code := code + (place + step) / size
      let place := (place + step) % size
      match if code.isValidChar then some code else stand with
      | none => (label, false)
      | some code =>
        readInsertions stand fuel (nextBias step size first) code (place + 1) false rest
          (label.take place ++ Char.ofNat code :: label.drop place)

def parts (written : List Char) : List Char × List Char :=
  let digits := (written.reverse.takeWhile (· ≠ '-')).reverse
  (digits, written.take (written.length - digits.length - 1))

/-- The label that ASCII characters write. The last hyphen comes after the ASCII characters of the
label. -/
def decode? (written : List Char) : Option (List Char) :=
  let (digits, basic) := parts written
  let (label, whole) := readInsertions none digits.length 72 0x80 0 true digits basic
  if whole then some label else none

/-- The label of digits and ASCII characters as far as it can be read. A question mark stands for a
number beyond all characters, U+FFFD for a character beyond ASCII. -/
def decodeSome (digits basic : List Char) : List Char :=
  let ascii := basic.map fun c => if c.toNat < 0x80 then c else Char.ofNat 0xFFFD
  (readInsertions (some 0x3F) digits.length 72 0x80 0 true digits ascii).1

end RequestChain.Text.Punycode
