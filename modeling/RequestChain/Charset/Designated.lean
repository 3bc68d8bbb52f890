import RequestChain.Charset.Grid.Gb2312
import RequestChain.Charset.Grid.Jis208
import RequestChain.Charset.Grid.Jis212
import RequestChain.Charset.Grid.Ks1001
import RequestChain.Charset.Japanese
import RequestChain.Charset.Page.Iso
import RequestChain.Charset.Planes
import RequestChain.Charset.Wide

namespace RequestChain.Charset

inductive Repertoire where
  | ascii
  | roman
  | katakana
  | grid (g : Grid)
  | plane (cell? : Nat → Nat → Option (List Char))
  | upper (p : Page) (lowerToo : Bool)

namespace Repertoire

def width : Repertoire → Nat
  | grid _ => 2
  | plane _ => 2
  | _ => 1

def read? : Repertoire → List Nat → Option (List Char)
  | ascii, [n] => some [Char.ofNat n]
  | roman, [n] => (romanChar? n).map ([·])
  | katakana, [n] => (halfKatakana? (n + 0x80)).map ([·])
  | grid g, [n, m] => (g.marked? (n + 0x80) (m + 0x80)).map ([·])
  | plane cell?, [n, m] => Edition.marked? cell? (n + 0x80) (m + 0x80)
  | _, _ => none

def single? : Repertoire → Nat → Option Char
  | ascii, n => if n < 0x80 then some (Char.ofNat n) else none
  | upper p lowerToo, n =>
    if n < 0x80 then p.char? (UInt8.ofNat (n + 0x80))
    else if lowerToo then p.char? (UInt8.ofNat (n - 0x80))
    else none
  | _, _ => none

end Repertoire

structure Designations where
  repertoires : List ((Bool × Char) × Repertoire)
  shifts : Bool
  third : Bool
  revisions : Bool

/-- What is known within a text: bytes are read in the first slot, after a shift in the second, and
a single character at a time in the third. -/
structure Slots where
  first : Repertoire
  second : Repertoire
  third : Repertoire
  shifted : Bool
  passing : Bool

inductive Extent where
  | ended (length : Nat)
  | endless
  | cut

namespace Designations

def isEnd (byte : Nat) : Bool := (0x41 ≤ byte && byte ≤ 0x5A) || byte == 0x40

/-- How many of the bytes after an escape belong to its sequence, if so many bytes suffice. The
announcement of a revision has an end sign and an escape within. -/
def extent (d : Designations) : Nat → Nat → List Nat → Extent
  | 0, _, _ => .endless
  | _, _, [] => .cut
  | budget + 1, passed, byte :: rest =>
    if isEnd byte then .ended (passed + 1)
    else
      match d.revisions, byte, rest with
      | true, 0x26, 0x40 :: others => d.extent (budget - 2) (passed + 3) (others.drop 1)
      | _, _, rest => d.extent budget (passed + 1) rest
termination_by budget => budget

/-- The slot that an escape sequence is about, and the name of the repertoire to put there. -/
def slot? (d : Designations) : List Nat → Option (Nat × (Bool × Char))
  | [0x24, name] => some (0, true, Char.ofNat name)
  | [0x28, name] => some (0, false, Char.ofNat name)
  | [0x29, name] => some (1, false, Char.ofNat name)
  | [0x2E, name] => if d.third then some (2, false, Char.ofNat name) else none
  | [0x24, 0x28, name] => some (0, true, Char.ofNat name)
  | [0x24, 0x29, name] => some (1, true, Char.ofNat name)
  | [0x26, 0x40, 0x1B, 0x24, 0x42] => if d.revisions then some (0, true, 'B') else none
  | _ => none

def repertoire? (d : Designations) (name : Bool × Char) : Option Repertoire :=
  if name = (false, 'B') then some .ascii else d.repertoires.lookup name

def put (s : Slots) (r : Repertoire) : Nat → Slots
  | 0 => { s with first := r }
  | 1 => { s with second := r }
  | _ => { s with third := r }

def nextSequence (d : Designations) (s : Slots) (rest : List Nat) : Reading Slots :=
  match d.extent 15 0 rest with
  | .ended length =>
    let named := (d.slot? (rest.take length)).bind fun (slot, name) =>
      (d.repertoire? name).map (put s · slot)
    named.elim (.found [none] length s) (.found [] length)
  | .endless => .found [none] 0 s
  | .cut => .cut

def nextEscape (d : Designations) (s : Slots) : List Nat → Reading Slots
  | [] => .cut
  | kind :: rest =>
    if [0x28, 0x29, 0x24, 0x2E, 0x26].contains kind then d.nextSequence s (kind :: rest)
    else if d.third ∧ kind = 0x4E then
      match rest with
      | [] => .cut
      | byte :: _ => .found [s.third.single? byte] 2 s
    else .found [some (Char.ofNat 0x1B)] 0 { s with passing := true }

def nextGraphic (s : Slots) (byte : Nat) (rest : List Nat) : Reading Slots :=
  let r := if s.shifted then s.second else s.first
  let bytes := (byte :: rest).take r.width
  if bytes.length < r.width then .cut
  else .found ((r.read? bytes).elim [none] (·.map some)) (r.width - 1) s

/-- What comes next. The end of a line ends a shift. -/
def next (d : Designations) (s : Slots) (byte : Nat) (rest : List Nat) : Reading Slots :=
  if s.passing then .found [some (Char.ofNat byte)] 0 { s with passing := !isEnd byte }
  else if byte = 0x1B then d.nextEscape s rest
  else if byte = 0x0F ∧ d.shifts then .found [] 0 { s with shifted := false }
  else if byte = 0x0E ∧ d.shifts then .found [] 0 { s with shifted := true }
  else if byte = 0x0A then .found [some '\n'] 0 { s with shifted := false }
  else if byte < 0x20 then .found [some (Char.ofNat byte)] 0 s
  else if 0x80 ≤ byte then .found [none] 0 s
  else nextGraphic s byte rest

def wide (d : Designations) : Wide Slots where
  start := ⟨.ascii, .ascii, .ascii, false, false⟩
  next := d.next

def japaneseRepertoires : List ((Bool × Char) × Repertoire) :=
  [((true, 'B'), .grid .jis208), ((true, '@'), .grid .jis208), ((false, 'J'), .roman)]

def japanese : Designations := ⟨japaneseRepertoires, false, false, true⟩

def japanese1 : Designations :=
  { japanese with repertoires := ((true, 'D'), .grid .jis212) :: japaneseRepertoires }

def japanese2 : Designations where
  repertoires :=
    ((true, 'C'), .grid .ks1001) :: ((true, 'A'), .grid .gb2312) ::
      ((false, 'A'), .upper .latin1 false) :: ((false, 'F'), .upper .iso7 true) :: japanese1.repertoires
  shifts := false
  third := true
  revisions := true

def japaneseExtended : Designations :=
  { japanese with repertoires := ((false, 'I'), .katakana) :: japanese1.repertoires }

def japanesePlanes (e : Edition) : Designations :=
  { japanese with
    repertoires := [((true, 'B'), .grid .jis208),
      ((true, if e = .old then 'O' else 'Q'), .plane e.first?), ((true, 'P'), .plane e.second?)] }

def korean : Designations := ⟨[((true, 'C'), .grid .ks1001)], true, false, false⟩

end Designations
end RequestChain.Charset
