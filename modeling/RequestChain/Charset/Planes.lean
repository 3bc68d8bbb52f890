import RequestChain.Charset.Grid.Jis208
import RequestChain.Charset.Grid.Jis212
import RequestChain.Charset.Grid.Jis213First
import RequestChain.Charset.Grid.Jis213Second
import RequestChain.Charset.Japanese

namespace RequestChain.Charset

inductive Edition where
  | old
  | new
  deriving DecidableEq

namespace Edition

def doubled : List ((Nat × Nat) × String) :=
  [((3, 86), "\u304b\u309a"), ((3, 87), "\u304d\u309a"), ((3, 88), "\u304f\u309a"),
   ((3, 89), "\u3051\u309a"), ((3, 90), "\u3053\u309a"), ((4, 86), "\u30ab\u309a"),
   ((4, 87), "\u30ad\u309a"), ((4, 88), "\u30af\u309a"), ((4, 89), "\u30b1\u309a"),
   ((4, 90), "\u30b3\u309a"), ((4, 91), "\u30bb\u309a"), ((4, 92), "\u30c4\u309a"),
   ((4, 93), "\u30c8\u309a"), ((5, 87), "\u31f7\u309a"), ((10, 35), "\u00e6\u0300"),
   ((10, 39), "\u0254\u0300"), ((10, 40), "\u0254\u0301"), ((10, 41), "\u028c\u0300"),
   ((10, 42), "\u028c\u0301"), ((10, 43), "\u0259\u0300"), ((10, 44), "\u0259\u0301"),
   ((10, 45), "\u025a\u0300"), ((10, 46), "\u025a\u0301"), ((10, 68), "\u02e9\u02e5"),
   ((10, 69), "\u02e5\u02e9")]

/-- The cells that came with the new edition. In the old one they are taken up all the same, by
U+FFFD. -/
def late : List (Nat × Nat) :=
  [(13, 0), (14, 93), (46, 51), (46, 93), (83, 6), (93, 89), (93, 90), (93, 91), (93, 92), (93, 93)]

def first? (e : Edition) (row column : Nat) : Option (List Char) :=
  if e = old ∧ (row, column) ∈ late then some [Text.Decoded.replacement]
  else
    match doubled.lookup (row, column) with
    | some s => some s.toList
    | none =>
      ((Grid.jis208.char? row column).or (Grid.jis213First.char? row column)).map ([·])

def second? (e : Edition) (row column : Nat) : Option (List Char) :=
  if e = old ∧ (row, column) = (92, 26) then some ['鬝']
  else (Grid.jis213Second.char? row column).map ([·])

def marked? (cell? : Nat → Nat → Option (List Char)) (lead trail : Nat) : Option (List Char) := do
  cell? (← Grid.place? lead) (← Grid.place? trail)

/-- What comes next where cells are marked by the highest bit. The older supplement remains beside
the second plane. -/
def nextMarked (e : Edition) (byte : Nat) (rest : List Nat) : Reading Unit :=
  match Paired.ascii? byte, rest with
  | some c, _ => .found [some c] 0 ()
  | none, [] => .cut
  | none, second :: others =>
    if byte = 0x8E then .ofChar? (halfKatakana? second) 1
    else if byte = 0x8F then
      match others with
      | [] => .cut
      | third :: _ =>
        .ofChars? ((marked? e.second? second third).or
          ((Grid.jis212.marked? second third).map ([·]))) 2
    else .ofChars? (marked? e.first? byte second) 1

def marked (e : Edition) : Wide Unit where
  start := ()
  next _ := e.nextMarked

/-- The row of the second plane that stands in place of a row after the first plane. -/
def secondRow (row : Nat) : Nat :=
  if 103 ≤ row then row - 26
  else if 99 ≤ row ∨ row = 95 then row - 88
  else row - 94

def shifted? (e : Edition) (row column : Nat) : Option (List Char) :=
  if (row, column) = (0, 31) then some ['\\']
  else if (row, column) = (1, 17) then some ['~']
  else if row < 94 then e.first? row column
  else e.second? (secondRow row) column

def nextShifted (e : Edition) (byte : Nat) (rest : List Nat) : Reading Unit :=
  match (romanChar? byte).or (halfKatakana? byte), Shifted.rows? byte, rest with
  | some c, _, _ => .found [some c] 0 ()
  | none, none, _ => .gap
  | none, some _, [] => .cut
  | none, some _, second :: _ =>
    .ofChars? ((Shifted.cell? byte second).bind fun (row, column) => e.shifted? row column) 1

def shifted (e : Edition) : Wide Unit where
  start := ()
  next _ := e.nextShifted

end Edition
end RequestChain.Charset
