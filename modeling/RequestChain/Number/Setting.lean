import RequestChain.Number.Whole

namespace RequestChain.Whole

inductive Reading where
  | number (n : Int)
  | tooLong
  | noNumber
  deriving DecidableEq

/-- An optional minus and digits, the first of several no zero. -/
def readStrict (cs : List Char) : Reading :=
  let (negative, ds) :=
    match cs with
    | '-' :: ds => (true, ds)
    | ds => (false, ds)
  if ds.isEmpty ∨ !ds.all Char.isDigit ∨ (ds.head? = some '0' ∧ ds.length ≠ 1) then .noNumber
  else if maxDigits < ds.length then .tooLong
  else .number (signed negative (Nat.ofDigitChars 10 ds 0))

/-- The text after zeros and underscores, of which `last` is the one before it. A minus may follow
the zeros; before a point, and at the end, the last of them stays. -/
def afterZeros (last : Char) : List Char → Option (List Char)
  | [] => some [last]
  | c :: cs =>
    if c = '0' ∨ c = '_' then afterZeros c cs
    else if c = '.' then some (last :: c :: cs)
    else if c = '-' ∨ c.isDigit then some (c :: cs)
    else none

def withoutZeros : List Char → Option (List Char)
  | '0' :: cs => afterZeros '0' cs
  | c :: cs => if c = '-' ∨ c.isDigit then some (c :: cs) else none
  | [] => none

def withoutFraction (cs : List Char) : List Char :=
  match cs.dropWhile (· ≠ '.') with
  | '.' :: '0' :: zeros => if zeros.all (· == '0') then cs.takeWhile (· ≠ '.') else cs
  | _ => cs

/-- The text without single underscores; unchanged if there are others. -/
def withoutUnderscores (cs : List Char) : List Char :=
  if underscoresDivide cs then cs.filter (· ≠ '_') else cs

def cleaned? (cs : List Char) : Option (List Char) := do
  let cs := Text.trim isSpace cs
  let cs ← match cs with
    | '+' :: '-' :: _ => none
    | '+' :: cs => some cs
    | cs => some cs
  return withoutUnderscores (withoutFraction (← withoutZeros cs))

def readSetting (s : String) : Reading :=
  match readStrict s.toList with
  | .noNumber =>
    match cleaned? s.toList with
    | some cs => readStrict cs
    | none => .noNumber
  | reading => reading

end RequestChain.Whole
