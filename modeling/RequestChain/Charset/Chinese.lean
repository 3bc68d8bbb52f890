import RequestChain.Charset.Grid.Gb2312
import RequestChain.Charset.Stretch
import RequestChain.Charset.Wide

namespace RequestChain.Charset

def markedGb : Paired := .beyondAscii Grid.gb2312.marked?

namespace Gbk

/-- Signs beyond the grid, and in place of two of its own. -/
def signs : List Stretch := [
  ⟨0xA1, 0xA4, "·"⟩,
  ⟨0xA1, 0xAA, "—"⟩,
  ⟨0xA2, 0xA1, "ⅰⅱⅲⅳⅴⅵⅶⅷⅸⅹ"⟩,
  ⟨0xA6, 0xE0, "︵︶︹︺︿﹀︽︾﹁﹂﹃﹄"⟩,
  ⟨0xA6, 0xEE, "︻︼︷︸︱"⟩,
  ⟨0xA6, 0xF4, "︳︴"⟩,
  ⟨0xA8, 0x40,
    "ˊˋ˙–―‥‵℅℉↖↗↘↙∕∟∣≒≦≧⊿═║╒╓╔╕╖╗╘╙╚╛╜╝╞╟╠╡╢╣╤╥╦╧╨╩╪╫╬╭╮╯╰╱╲╳▁▂▃▄▅▆▇█▉▊▋▌▍▎▏▓▔▕▼▽◢◣◤◥☉⊕〒〝〞"⟩,
  ⟨0xA8, 0xBB, "ɑ"⟩,
  ⟨0xA8, 0xBD, "ńň"⟩,
  ⟨0xA8, 0xC0, "ɡ"⟩,
  ⟨0xA9, 0x40, "〡〢〣〤〥〦〧〨〩㊣㎎㎏㎜㎝㎞㎡㏄㏎㏑㏒㏕︰￢￤"⟩,
  ⟨0xA9, 0x59, "℡㈱"⟩,
  ⟨0xA9, 0x5C, "‐"⟩,
  ⟨0xA9, 0x60, "ー゛゜ヽヾ〆ゝゞ﹉﹊﹋﹌﹍﹎﹏﹐﹑﹒﹔﹕﹖﹗﹙﹚﹛﹜﹝﹞﹟﹠﹡﹢﹣﹤﹥﹦﹨﹩﹪﹫"⟩,
  ⟨0xA9, 0x96, "〇"⟩]

def ideographs : Array Char :=
  Grid.gb2312.missing 0x4E00 0x9FA5 ++
    "郎凉秊裏隣兀嗀﨎﨏﨑﨓﨔礼﨟蘒﨡﨣﨤﨧﨨﨩".toList

/-- Where the ideograph of a pair stands. Before the grid a leading byte has 190 of them, beside it
96. -/
def ideographIndex? (lead trail : Nat) : Option Nat := do
  let place ← Stretch.place? trail
  if 0x81 ≤ lead ∧ lead ≤ 0xA0 then return (lead - 0x81) * 190 + place
  else if 0xAA ≤ lead ∧ lead ≤ 0xFE ∧ place < 96 then return 6080 + (lead - 0xAA) * 96 + place
  else none

def char? (lead trail : Nat) : Option Char :=
  ((Stretch.char? signs lead trail).or (Grid.gb2312.marked? lead trail)).or
    ((ideographIndex? lead trail).bind fun i => ideographs[i]?)

end Gbk

def gbk : Paired := .beyondAscii Gbk.char?

namespace Gb18030

def late : List Stretch := [
  ⟨0xA2, 0xE3, "€"⟩,
  ⟨0xA8, 0xBF, "ǹ"⟩,
  ⟨0xA9, 0x89, "〾⿰⿱⿲⿳⿴⿵⿶⿷⿸⿹⿺⿻"⟩,
  ⟨0xFE, 0x50, "⺁���⺄㑳㑇⺈⺋�㖞㘚㘎⺌⺗㥮㤘�㧏㧟㩳㧐��㭎㱮㳠⺧��⺪䁖䅟⺮䌷⺳⺶⺷�䎱䎬⺻䏝䓖䙡䙌�䜣䜩䝼䞍⻊䥇䥺䥽䦂䦃䦅䦆䦟䦛䦷䦶��䲣䲟䲠䲡䱷䲢䴓䴔䴕䴖䴗䴘䴙䶮"⟩]

/-- The runs of pairs that stay free: a leading byte, the first of the second bytes, and how many
there are. -/
def free : List (Nat × Nat × Nat) :=
  [(0xA2, 0xAB, 6), (0xA2, 0xE3, 2), (0xA2, 0xEF, 2), (0xA2, 0xFD, 2), (0xA4, 0xF4, 11),
   (0xA5, 0xF7, 8), (0xA6, 0xB9, 8), (0xA6, 0xD9, 7), (0xA6, 0xEC, 2), (0xA6, 0xF3, 1),
   (0xA6, 0xF6, 9), (0xA7, 0xC2, 15), (0xA7, 0xF2, 13), (0xA8, 0x96, 11), (0xA8, 0xBC, 1),
   (0xA8, 0xBF, 1), (0xA8, 0xC1, 4), (0xA8, 0xEA, 21), (0xA9, 0x58, 1), (0xA9, 0x5B, 1),
   (0xA9, 0x5D, 3), (0xA9, 0x89, 13), (0xA9, 0x97, 13), (0xA9, 0xF0, 15), (0xD7, 0xFA, 5),
   (0xFE, 0x50, 80)]

def freeIndex? (lead place : Nat) : List (Nat × Nat × Nat) → Option Nat
  | [] => none
  | (first, trail, count) :: rest =>
    match Stretch.place? trail with
    | none => none
    | some start =>
      if first = lead ∧ start ≤ place ∧ place < start + count then some (place - start)
      else (freeIndex? lead place rest).map (· + count)

/-- The character for private use of a pair. Three blocks come first, then the free pairs. -/
def private? (lead trail : Nat) : Option Char := do
  let place ← Stretch.place? trail
  if 0xAA ≤ lead ∧ lead ≤ 0xAF ∧ 96 ≤ place then
    return Char.ofNat (0xE000 + (lead - 0xAA) * 94 + (place - 96))
  else if 0xF8 ≤ lead ∧ lead ≤ 0xFE ∧ 96 ≤ place then
    return Char.ofNat (0xE234 + (lead - 0xF8) * 94 + (place - 96))
  else if 0xA1 ≤ lead ∧ lead ≤ 0xA7 ∧ place < 96 then
    return Char.ofNat (0xE4C6 + (lead - 0xA1) * 96 + place)
  else
    return Char.ofNat (0xE766 + (← freeIndex? lead place free))

def char? (lead trail : Nat) : Option Char :=
  ((Gbk.char? lead trail).or (Stretch.char? late lead trail)).or (private? lead trail)

/-- The runs of characters below U+10000 that have no pair: the first of a run and how many there
are. -/
def unpaired : List (Nat × Nat) :=
  [(0x80, 36), (0xA5, 2), (0xA9, 7), (0xB2, 5), (0xB8, 31), (0xD8, 8), (0xE2, 6), (0xEB, 1),
   (0xEE, 4), (0xF4, 3), (0xF8, 1), (0xFB, 1), (0xFD, 4), (0x102, 17), (0x114, 7), (0x11C, 15),
   (0x12C, 24), (0x145, 3), (0x149, 4), (0x14E, 29), (0x16C, 98), (0x1CF, 1), (0x1D1, 1),
   (0x1D3, 1), (0x1D5, 1), (0x1D7, 1), (0x1D9, 1), (0x1DB, 1), (0x1DD, 28), (0x1FA, 87),
   (0x252, 15), (0x262, 101), (0x2C8, 1), (0x2CC, 13), (0x2DA, 183), (0x3A2, 1), (0x3AA, 7),
   (0x3C2, 1), (0x3CA, 55), (0x402, 14), (0x450, 1), (0x452, 7102), (0x2011, 2), (0x2017, 1),
   (0x201A, 2), (0x201E, 7), (0x2027, 9), (0x2031, 1), (0x2034, 1), (0x2036, 5), (0x203C, 112),
   (0x20AD, 86), (0x2104, 1), (0x2106, 3), (0x210A, 12), (0x2117, 10), (0x2122, 62), (0x216C, 4),
   (0x217A, 22), (0x2194, 2), (0x219A, 110), (0x2209, 6), (0x2210, 1), (0x2212, 3), (0x2216, 4),
   (0x221B, 2), (0x2221, 2), (0x2224, 1), (0x2226, 1), (0x222C, 2), (0x222F, 5), (0x2238, 5),
   (0x223E, 10), (0x2249, 3), (0x224D, 5), (0x2253, 13), (0x2262, 2), (0x2268, 6), (0x2270, 37),
   (0x2296, 3), (0x229A, 11), (0x22A6, 25), (0x22C0, 82), (0x2313, 333), (0x246A, 10),
   (0x249C, 100), (0x254C, 4), (0x2574, 13), (0x2590, 3), (0x2596, 10), (0x25A2, 16), (0x25B4, 8),
   (0x25BE, 8), (0x25C8, 3), (0x25CC, 2), (0x25D0, 18), (0x25E6, 31), (0x2607, 2), (0x260A, 54),
   (0x2641, 1), (0x2643, 2110), (0x2E82, 2), (0x2E85, 3), (0x2E89, 2), (0x2E8D, 10), (0x2E98, 15),
   (0x2EA8, 2), (0x2EAB, 3), (0x2EAF, 4), (0x2EB4, 2), (0x2EB8, 3), (0x2EBC, 14), (0x2ECB, 293),
   (0x2FFC, 4), (0x3004, 1), (0x3018, 5), (0x301F, 2), (0x302A, 20), (0x303F, 2), (0x3094, 7),
   (0x309F, 2), (0x30F7, 5), (0x30FF, 6), (0x312A, 246), (0x322A, 7), (0x3232, 113),
   (0x32A4, 234), (0x3390, 12), (0x339F, 2), (0x33A2, 34), (0x33C5, 9), (0x33CF, 2), (0x33D3, 2),
   (0x33D6, 113), (0x3448, 43), (0x3474, 298), (0x359F, 111), (0x360F, 11), (0x361B, 765),
   (0x3919, 85), (0x396F, 96), (0x39D1, 14), (0x39E0, 147), (0x3A74, 218), (0x3B4F, 287),
   (0x3C6F, 113), (0x3CE1, 885), (0x4057, 264), (0x4160, 471), (0x4338, 116), (0x43AD, 4),
   (0x43B2, 43), (0x43DE, 248), (0x44D7, 373), (0x464D, 20), (0x4662, 193), (0x4724, 5),
   (0x472A, 82), (0x477D, 16), (0x478E, 441), (0x4948, 50), (0x497B, 2), (0x497E, 4), (0x4984, 1),
   (0x4987, 20), (0x499C, 3), (0x49A0, 22), (0x49B8, 703), (0x4C78, 39), (0x4CA4, 111),
   (0x4D1A, 148), (0x4DAF, 81), (0x9FA6, 14426), (0xE76C, 1), (0xE7C8, 1), (0xE7E7, 13),
   (0xE815, 1), (0xE819, 5), (0xE81F, 7), (0xE827, 4), (0xE82D, 4), (0xE833, 8), (0xE83C, 7),
   (0xE844, 16), (0xE856, 14), (0xE865, 4295), (0xF92D, 76), (0xF97A, 27), (0xF996, 81),
   (0xF9E8, 9), (0xF9F2, 26), (0xFA10, 1), (0xFA12, 1), (0xFA15, 3), (0xFA19, 6), (0xFA22, 1),
   (0xFA25, 2), (0xFA2A, 1030), (0xFE32, 1), (0xFE45, 4), (0xFE53, 1), (0xFE58, 1), (0xFE67, 1),
   (0xFE6C, 149), (0xFF5F, 129), (0xFFE6, 26)]

def inRuns? (place : Nat) : List (Nat × Nat) → Option Char
  | [] => none
  | (first, count) :: rest =>
    if place < count then some (Char.ofNat (first + place)) else inRuns? (place - count) rest

def quadruple? (first second third fourth : Nat) : Option Char :=
  if 0x81 ≤ first ∧ first ≤ 0xFE ∧ 0x81 ≤ third ∧ third ≤ 0xFE ∧ 0x30 ≤ fourth ∧ fourth ≤ 0x39 then
    let low := (second - 0x30) * 1260 + (third - 0x81) * 10 + (fourth - 0x30)
    if first < 0x85 then inRuns? ((first - 0x81) * 12600 + low) unpaired
    else if 0x90 ≤ first then
      let n := 0x10000 + (first - 0x90) * 12600 + low
      if n ≤ 0x10FFFF then some (Char.ofNat n) else none
    else none
  else none

/-- What comes next. A digit after the first byte announces four bytes. -/
def next (byte : Nat) (rest : List Nat) : Reading Unit :=
  match Paired.ascii? byte, rest with
  | some c, _ => .found [some c] 0 ()
  | none, [] => .cut
  | none, second :: others =>
    if 0x30 ≤ second ∧ second ≤ 0x39 then
      match others with
      | third :: fourth :: _ => .ofChar? (quadruple? byte second third fourth) 3
      | _ => .cut
    else .ofChar? (char? byte second) 1

end Gb18030

def gb18030 : Wide Unit where
  start := ()
  next _ := Gb18030.next

/-- What comes next where a tilde begins the signs that turn to the grid and back. A tilde may also
stand for itself, or join two lines. -/
def nextTilde (inGrid : Bool) (byte : Nat) (rest : List Nat) : Reading Bool :=
  if byte = 0x7E then
    match rest, inGrid with
    | [], _ => .cut
    | 0x7E :: _, false => .found [some '~'] 1 false
    | 0x7B :: _, false => .found [] 1 true
    | 0x0A :: _, false => .found [] 1 false
    | 0x7D :: _, true => .found [] 1 false
    | _, _ => .found [none] 0 inGrid
  else if 0x80 ≤ byte then .found [none] 0 inGrid
  else if inGrid then
    match rest with
    | [] => .cut
    | second :: _ =>
      match Grid.gb2312.marked? (byte + 0x80) (second + 0x80) with
      | some c => .found [some c] 1 true
      | none => .found [none] 0 true
  else .found [some (Char.ofNat byte)] 0 false

def tildeGb : Wide Bool where
  start := false
  next := nextTilde

end RequestChain.Charset
