import RequestChain.Number.Double
import RequestChain.Number.Whole

namespace RequestChain.Double

def exponentOf? : List Char → Option Int
  | [] => some 0
  | e :: cs =>
    let (negative, ds) := Whole.sign cs
    if (e = 'e' ∨ e = 'E') ∧ !ds.isEmpty ∧ ds.all Char.isDigit then
      some (Whole.signed negative (Nat.ofDigitChars 10 ds 0))
    else none

def ofDigits? (negative : Bool) (cs : List Char) : Option Double := do
  let whole := cs.takeWhile Char.isDigit
  let rest := cs.dropWhile Char.isDigit
  let (fraction, rest) :=
    match rest with
    | '.' :: after => (after.takeWhile Char.isDigit, after.dropWhile Char.isDigit)
    | _ => ([], rest)
  if whole.isEmpty && fraction.isEmpty then none
  let exponent ← exponentOf? rest
  return ofDecimal negative (Nat.ofDigitChars 10 (whole ++ fraction) 0)
    (exponent - fraction.length)

def ofPlain? (cs : List Char) : Option Double :=
  let (negative, cs) := Whole.sign cs
  let word := (String.ofList cs).toLower
  if word = "nan" then some .nan
  else if word = "inf" ∨ word = "infinity" then some (.infinite negative)
  else ofDigits? negative cs

/-- The double that a setting writes, with white space around it. Underscores are taken away only
from a text without white space. -/
def readSetting? (s : String) : Option Double :=
  let cs := s.toList
  match ofPlain? (Text.trim Whole.isSpace cs) with
  | some x => some x
  | none =>
    if cs.contains '_' ∧ Whole.underscoresDivide cs then ofPlain? (cs.filter (· ≠ '_')) else none

end RequestChain.Double
