import RequestChain.Idna.Allowed
import RequestChain.Idna.Direction
import RequestChain.Idna.Fault
import RequestChain.Idna.Joining
import RequestChain.Idna.Script
import RequestChain.Text.Normal
import RequestChain.Text.Punycode

namespace RequestChain.Idna

def require (test : Bool) (fault : IdnaFault) : Except IdnaFault Unit :=
  if test then .ok () else .error fault

/-- Hyphens stand neither at the ends nor in the third and fourth place. -/
def checkHyphens (label : List Char) : Except IdnaFault Unit := do
  require ((label.drop 2).take 2 != ['-', '-']) .reservedHyphens
  require (label.head? != some '-' && label.getLast? != some '-') .outerHyphen

/-- A mark of the scripts of India that takes the vowel off a consonant. -/
def isVirama (c : Char) : Bool := Text.combiningClass c == 9

/-- A joiner has its place after a virama; one that parts, also between letters that would join.
`before` is what comes before it, the last character first. -/
def mayJoin (parts : Bool) (before after : List Char) : Bool :=
  before.head?.any isVirama ||
    (parts && (before.find? fun c => !isTransparent c).any joinsNext &&
      (after.find? fun c => !isTransparent c).any joinsPrevious)

/-- The rule of a character that is allowed only among certain others, if there is one for it.
`before` is what comes before it, the last character first. -/
def contextRule? (c : Char) (before after label : List Char) : Option Bool :=
  let n := c.toNat
  if n = 0xB7 then some (before.head? == some 'l' && after.head? == some 'l')
  else if n = 0x375 then some (after.head?.any greek.has)
  else if n = 0x5F3 ∨ n = 0x5F4 then some (before.head?.any hebrew.has)
  else if n = 0x30FB then some (label.any japanese.has)
  else if 0x660 ≤ n ∧ n ≤ 0x669 then
    some (!label.any fun d => 0x6F0 ≤ d.toNat && d.toNat ≤ 0x6F9)
  else if 0x6F0 ≤ n ∧ n ≤ 0x6F9 then
    some (!label.any fun d => 0x660 ≤ d.toNat && d.toNat ≤ 0x669)
  else none

/-- Checks the characters of a label after those that come before them, the last of which comes
first. -/
def checkCharacters (label : List Char) : List Char → List Char → Except IdnaFault Unit
  | _, [] => .ok ()
  | before, c :: after => do
    let position := before.length + 1
    if isAllowed c then pure ()
    else if c.toNat = 0x200C ∨ c.toNat = 0x200D then
      require (mayJoin (c.toNat == 0x200C) before after)
        (.joiner c position (String.ofList label))
    else
      match contextRule? c before after label with
      | some holds => require holds (.context c position (String.ofList label))
      | none => throw (.character c position (String.ofList label))
    checkCharacters label (c :: before) after

/-- Checks the directions of the characters from a position on. In a label from right to left all
but letters of the other direction may stand; in one from left to right no letters and no Arabic
numbers of the other. -/
def checkEach (isRightToLeft : Bool) : Nat → Option Direction → List Direction →
    Except IdnaFault Unit
  | _, _, [] => .ok ()
  | position, number, d :: ds => do
    if isRightToLeft then
      require (d != .leftToRight) (.direction true position)
      if d = .arabicNumber ∨ d = .europeanNumber then
        require (number.all (· == d)) .mixedNumbers
        checkEach isRightToLeft (position + 1) (number.or (some d)) ds
      else checkEach isRightToLeft (position + 1) number ds
    else
      require (d != .rightToLeft && d != .arabicNumber) (.direction false position)
      checkEach isRightToLeft (position + 1) number ds

/-- A label with letters from right to left, or Arabic numbers, starts with a letter, keeps its
direction and ends with a letter or number, marks apart. -/
def checkDirections (label : List Char) : Except IdnaFault Unit := do
  let ds := label.map Direction.ofChar
  if ds.contains .rightToLeft || ds.contains .arabicNumber then
    let isRightToLeft ←
      match ds.head? with
      | some .rightToLeft => pure true
      | some .leftToRight => pure false
      | _ => throw (.initialDirection (String.ofList label))
    checkEach isRightToLeft 1 none ds
    let last := ds.reverse.find? (· != .nonspacing)
    require (last.any fun d => d == .europeanNumber ||
      (if isRightToLeft then d == .rightToLeft || d == .arabicNumber else d == .leftToRight))
      .finalDirection

def longestName : Nat := 254

def longestLabel : Nat := 63

def checkLabel (label : List Char) : Except IdnaFault Unit := do
  require (!label.isEmpty) .emptyLabel
  require (label.length ≤ longestName) .labelTooLong
  require (Text.Normal.isNormal label) .notNormal
  checkHyphens label
  require (!label.head?.any Text.isMark) .initialMark
  checkCharacters label [] label
  checkDirections label

def written : List Char := "xn--".toList

def readLabel (label : List Char) : Except IdnaFault (List Char) := do
  let label := label.map Char.toLower
  if written.isPrefixOf label then
    let digits := label.drop written.length
    require (!digits.isEmpty) .nothingWritten
    require (digits.getLast? != some '-') .finalHyphen
    match Text.Punycode.decode? digits with
    | none => throw .notWritten
    | some label =>
      checkLabel label
      return label
  else
    checkLabel label
    return label

def writeLabel (label : List Char) : Except IdnaFault (List Char) := do
  let ascii ←
    if label.all (·.toNat < 0x80) then (do
      let _ ← readLabel label
      pure label)
    else (do
      checkLabel label
      pure (written ++ Text.Punycode.encode label))
  require (ascii.length ≤ longestLabel) .labelTooLong
  return ascii

end RequestChain.Idna
