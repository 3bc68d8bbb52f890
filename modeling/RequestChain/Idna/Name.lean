import RequestChain.Idna.Label

namespace RequestChain.Idna

def isPoint (c : Char) : Bool :=
  c == '.' || c.toNat == 0x3002 || c.toNat == 0xFF0E || c.toNat == 0xFF61

def labelsOf : List Char → List (List Char)
  | [] => [[]]
  | c :: cs =>
    match labelsOf cs with
    | [] => [[c]]
    | first :: rest => if isPoint c then [] :: first :: rest else (c :: first) :: rest

def mapLabels (form : List Char → Except IdnaFault (List Char)) (name : String) :
    Except IdnaFault String := do
  let cs := name.toList
  require (cs.length ≤ longestName) .nameTooLong
  require (!cs.isEmpty) .emptyName
  let labels := labelsOf cs
  let isOpen := labels.getLast? == some []
  let formed ← (if isOpen then labels.dropLast else labels).mapM form
  return String.intercalate "." (formed.map String.ofList) ++ (if isOpen then "." else "")

def readName (name : String) : Except IdnaFault String := mapLabels readLabel name

/-- The form of a name in ASCII. Without a point at the end it may have one character less. -/
def writeName (name : String) : Except IdnaFault String := do
  let ascii ← mapLabels writeLabel name
  let isOpen := ascii.toList.getLast? == some '.'
  require (ascii.length + (if isOpen then 0 else 1) ≤ longestName) .nameTooLong
  return ascii

end RequestChain.Idna
