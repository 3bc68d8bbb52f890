import RequestChain.Charset.Grid.Big5
import RequestChain.Charset.Grid.Hkscs
import RequestChain.Charset.Stretch
import RequestChain.Charset.Wide

namespace RequestChain.Charset

/-- The character of a pair. The second byte also tells which of the two rows of the leading byte
is meant. -/
def bigChar? (lead trail : Nat) : Option Char :=
  if 0xA1 ≤ lead ∧ lead ≤ 0xF9 then
    let row := (lead - 0xA1) * 2
    if 0x40 ≤ trail ∧ trail ≤ 0x7E then Grid.big5.char? row (trail - 0x40)
    else (Grid.place? trail).bind fun column => Grid.big5.char? (row + 1) column
  else none

def big5 : Paired := .beyondAscii bigChar?

def doubleAccents : List ((Nat × Nat) × String) :=
  [((0x88, 0x62), "\u00ca\u0304"), ((0x88, 0x64), "\u00ca\u030c"), ((0x88, 0xA3), "\u00ea\u0304"),
   ((0x88, 0xA5), "\u00ea\u030c")]

def supplementLead? (lead : Nat) : Option Nat :=
  if 0x87 ≤ lead ∧ lead ≤ 0xA0 then some (lead - 0x87)
  else if 0xC6 ≤ lead ∧ lead ≤ 0xC8 then some (lead - 0xC6 + 26)
  else if 0xF9 ≤ lead ∧ lead ≤ 0xFE then some (lead - 0xF9 + 29)
  else none

def supplementChar? (lead trail : Nat) : Option Char := do
  let row := (← supplementLead? lead) * 2
  if 0x40 ≤ trail ∧ trail ≤ 0x7E then Grid.hkscs.char? row (trail - 0x40)
  else Grid.hkscs.char? (row + 1) (← Grid.place? trail)

/-- What a pair says with the supplement. Some cells in the midst are taken from Big5. -/
def hongKong? (lead trail : Nat) : Option (List Char) :=
  let taken := (lead = 0xC6 ∧ 0xA1 ≤ trail) ∨ lead = 0xC7 ∨ lead = 0xC8
  let big := if taken then none else bigChar? lead trail
  ((big.or (supplementChar? lead trail)).map ([·])).or
    ((doubleAccents.lookup (lead, trail)).map String.toList)

def nextHongKong (byte : Nat) (rest : List Nat) : Reading Unit :=
  match Paired.ascii? byte, rest with
  | some c, _ => .found [some c] 0 ()
  | none, [] => .cut
  | none, second :: _ => .ofChars? (hongKong? byte second) 1

def hongKong : Wide Unit where
  start := ()
  next _ := nextHongKong

/-- What the code page of Windows has beyond Big5, and in place of some of its signs. -/
def windows950Signs : List Stretch := [
  ⟨0xA1, 0x45, "‧"⟩,
  ⟨0xA1, 0x4E, "﹑"⟩,
  ⟨0xA1, 0xC2, "¯"⟩,
  ⟨0xA1, 0xE3, "～"⟩,
  ⟨0xA1, 0xF2, "⊕⊙"⟩,
  ⟨0xA2, 0x41, "∕﹨"⟩,
  ⟨0xA2, 0x44, "￥"⟩,
  ⟨0xA2, 0x46, "￠￡"⟩,
  ⟨0xA3, 0xE1, "€"⟩,
  ⟨0xF9, 0xD6, "碁銹裏墻恒粧嫺╔╦╗╠╬╣╚╩╝╒╤╕╞╪╡╘╧╛╓╥╖╟╫╢╙╨╜║═╭╮╰╯▓"⟩]

def windows950 : Paired :=
  .beyondAscii fun lead trail =>
    (Stretch.char? windows950Signs lead trail).or (bigChar? lead trail)

end RequestChain.Charset
