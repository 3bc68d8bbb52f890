import RequestChain.Charset.Grid.Ks1001
import RequestChain.Charset.Wide

namespace RequestChain.Charset

namespace Hangul

def initials : List Char := "ㄱㄲㄴㄷㄸㄹㅁㅂㅃㅅㅆㅇㅈㅉㅊㅋㅌㅍㅎ".toList

def vowels : List Char := "ㅏㅐㅑㅒㅓㅔㅕㅖㅗㅘㅙㅚㅛㅜㅝㅞㅟㅠㅡㅢㅣ".toList

def finals : List Char := "ㄱㄲㄳㄴㄵㄶㄷㄹㄺㄻㄼㄽㄾㄿㅀㅁㅂㅄㅅㅆㅇㅈㅊㅋㅌㅍㅎ".toList

/-- The syllable of a beginning, a vowel and an ending, all told by their places. The ending at
place zero is none. -/
def syllable (initial vowel final : Nat) : Char :=
  Char.ofNat (0xAC00 + initial * 588 + vowel * 28 + final)

end Hangul

def hangulLetter? (byte : Nat) : Option Char :=
  (Grid.place? byte).bind fun column => Grid.ks1001.char? 3 column

/-- The syllable that four pairs of the row of letters spell: a filler, a beginning, a vowel, and an
ending or another filler. -/
def spelled? (initial vowel final : Nat) : Option Char := do
  let i ← Hangul.initials.idxOf? (← hangulLetter? initial)
  let v ← Hangul.vowels.idxOf? (← hangulLetter? vowel)
  if final = 0xD4 then return Hangul.syllable i v 0
  else return Hangul.syllable i v ((← Hangul.finals.idxOf? (← hangulLetter? final)) + 1)

/-- What comes next where cells are marked by the highest bit. A filler begins a spelling. -/
def nextMarkedKs (byte : Nat) (rest : List Nat) : Reading Unit :=
  match Paired.ascii? byte, byte, rest with
  | some c, _, _ => .found [some c] 0 ()
  | none, _, [] => .cut
  | none, 0xA4, 0xD4 :: others =>
    match others with
    | a :: initial :: b :: vowel :: c :: final :: _ =>
      if a = 0xA4 ∧ b = 0xA4 ∧ c = 0xA4 then .ofChar? (spelled? initial vowel final) 7 else .gap
    | _ => .cut
  | none, _, second :: _ => .ofChar? (Grid.ks1001.marked? byte second) 1

def markedKs : Wide Unit where
  start := ()
  next _ := nextMarkedKs

namespace Unified

def syllables : Array Char := Grid.ks1001.missing 0xAC00 0xD7A3

def place? (trail : Nat) : Option Nat :=
  if 0x41 ≤ trail ∧ trail ≤ 0x5A then some (trail - 0x41)
  else if 0x61 ≤ trail ∧ trail ≤ 0x7A then some (trail - 0x47)
  else if 0x81 ≤ trail ∧ trail ≤ 0xFE then some (trail - 0x4D)
  else none

/-- Where the syllable of a pair stands. Before the grid a leading byte has 178 of them, beside it
84. -/
def index? (lead trail : Nat) : Option Nat := do
  let place ← place? trail
  if 0x81 ≤ lead ∧ lead ≤ 0xA0 then return (lead - 0x81) * 178 + place
  else if 0xA1 ≤ lead ∧ lead ≤ 0xC6 ∧ place < 84 then return 5696 + (lead - 0xA1) * 84 + place
  else none

def char? (lead trail : Nat) : Option Char :=
  (Grid.ks1001.marked? lead trail).or ((index? lead trail).bind fun i => syllables[i]?)

end Unified

def windows949 : Paired := .beyondAscii Unified.char?

namespace Combined

inductive Part where
  | filler
  | letter (place : Nat)

def initial? (n : Nat) : Option Part :=
  if n = 1 then some .filler
  else if 2 ≤ n ∧ n ≤ 20 then some (.letter (n - 2))
  else none

/-- The vowel of a syllable. Of each eight numbers the first two are no vowels. -/
def vowel? (n : Nat) : Option Part :=
  if n = 2 then some .filler
  else if 3 ≤ n ∧ n ≤ 29 ∧ 2 ≤ n % 8 then some (.letter (n / 8 * 6 + n % 8 - 3))
  else none

def final? (n : Nat) : Option Part :=
  if n = 1 then some .filler
  else if 2 ≤ n ∧ n ≤ 17 then some (.letter (n - 2))
  else if 19 ≤ n ∧ n ≤ 29 then some (.letter (n - 3))
  else none

def char? : Part → Part → Part → Option Char
  | .filler, .filler, .filler => some (Char.ofNat 0x3000)
  | .filler, .filler, .letter f => Hangul.finals[f]?
  | .filler, .letter v, .filler => Hangul.vowels[v]?
  | .letter i, .filler, .filler => Hangul.initials[i]?
  | .letter i, .letter v, .filler => some (Hangul.syllable i v 0)
  | .letter i, .letter v, .letter f => some (Hangul.syllable i v (f + 1))
  | _, _, _ => none

def syllable? (lead trail : Nat) : Option Char := do
  char? (← initial? (lead / 4 % 32)) (← vowel? (lead * 8 % 32 + trail / 32)) (← final? (trail % 32))

def place? (trail : Nat) : Option Nat :=
  if 0x31 ≤ trail ∧ trail ≤ 0x7E then some (trail - 0x31)
  else if 0x91 ≤ trail ∧ trail ≤ 0xFE then some (trail - 0x43)
  else none

/-- The row of a leading byte, the first of two. Signs come from 0xD9 on, hanja from 0xE0 on. -/
def row? (lead : Nat) : Option Nat :=
  if 0xD9 ≤ lead ∧ lead ≤ 0xDE then some (2 * lead - 0x1B2)
  else if 0xE0 ≤ lead ∧ lead ≤ 0xF9 then some (2 * lead - 0x197)
  else none

/-- The character of a pair that tells a cell of the grid, where that is not a letter which parts
can tell. -/
def cell? (lead trail : Nat) : Option Char := do
  let row ← row? lead
  let place ← place? trail
  if lead = 0xDA ∧ 0xA1 ≤ trail ∧ trail ≤ 0xD3 then none
  else Grid.ks1001.char? (row + place / 94) (place % 94)

end Combined

def combined : Paired :=
  .beyondAscii fun lead trail =>
    if lead < 0xD8 then Combined.syllable? lead trail else Combined.cell? lead trail

end RequestChain.Charset
