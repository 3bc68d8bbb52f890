import RequestChain.Charset.Wide
import RequestChain.Text.Hex

namespace RequestChain.Charset.Backslash

inductive Digits where
  | all (value : Nat)
  | stopped (count : Nat)
  | cut

def digits : Nat → (count value : Nat) → List Nat → Digits
  | 0, _, value, _ => .all value
  | _, _, _, [] => .cut
  | n + 1, count, value, byte :: rest =>
    match Hex.value? (Char.ofNat byte) with
    | some d => digits n (count + 1) (value * 16 + d) rest
    | none => .stopped count

/-- The unit of UTF-16 that an escape of four digits gives, if it is the lower half of a
character. -/
def lowerHalf? : List Nat → Option Nat
  | 0x5C :: 0x75 :: rest =>
    match digits 4 0 0 rest with
    | .all value => if 0xDC00 ≤ value ∧ value < 0xE000 then some value else none
    | _ => none
  | _ => none

def char? (n : Nat) : Option Char := if n.isValidChar then some (Char.ofNat n) else none

/-- An escape with a number of so many digits. Two escapes may give the halves of a character. -/
def numbered (count : Nat) (rest : List Nat) : Reading Unit :=
  match digits count 0 0 rest with
  | .cut => .cut
  | .stopped n => .found [none] (1 + n) ()
  | .all value =>
    match lowerHalf? (rest.drop count) with
    | some low =>
      if count = 4 ∧ 0xD800 ≤ value ∧ value < 0xDC00 then
        .found [char? (0x10000 + (value - 0xD800) * 0x400 + (low - 0xDC00))] 11 ()
      else .found [char? value] (1 + count) ()
    | none => .found [char? value] (1 + count) ()

def plain (byte : Nat) : Reading Unit := .found [some '\\', some (Char.ofNat byte)] 1 ()

/-- What comes next, where only numbers of characters are escaped. A last backslash stands for
itself. -/
def nextRaw (byte : Nat) (rest : List Nat) : Reading Unit :=
  if byte = 0x5C then
    match rest with
    | [] => .found [some '\\'] 0 ()
    | 0x75 :: rest => numbered 4 rest
    | 0x55 :: rest => numbered 8 rest
    | kind :: _ => plain kind
  else .found [some (Char.ofNat byte)] 0 ()

def isOctal (byte : Nat) : Bool := 0x30 ≤ byte && byte < 0x38

def named : List (Char × Char) :=
  [('\\', '\\'), ('\'', '\''), ('"', '"'), ('b', '\x08'), ('f', '\x0c'), ('t', '\t'), ('n', '\n'),
   ('r', '\r'), ('v', '\x0b'), ('a', '\x07')]

def byName : List Nat → Reading Unit
  | [] => .cut
  | 0x7B :: rest =>
    let name := rest.takeWhile (· ≠ 0x7D)
    if name.length = rest.length then .cut
    else if name.isEmpty then .found [none] 2 ()
    else .found [none] (name.length + 3) ()
  | _ => .found [none] 1 ()

/-- What comes next, where characters are escaped as in a string of a program. A backslash joins
two lines. -/
def nextQuoted (byte : Nat) (rest : List Nat) : Reading Unit :=
  if byte = 0x5C then
    match rest with
    | [] => .cut
    | 0x0A :: _ => .found [] 1 ()
    | 0x78 :: rest => numbered 2 rest
    | 0x75 :: rest => numbered 4 rest
    | 0x55 :: rest => numbered 8 rest
    | 0x4E :: rest => byName rest
    | kind :: _ =>
      if isOctal kind then
        let ds := (rest.take 3).takeWhile isOctal
        .found [some (Char.ofNat (ds.foldl (fun n d => n * 8 + (d - 0x30)) 0))] ds.length ()
      else
        match named.lookup (Char.ofNat kind) with
        | some c => .found [some c] 1 ()
        | none => plain kind
  else .found [some (Char.ofNat byte)] 0 ()

def raw : Wide Unit where
  start := ()
  next _ := nextRaw
  room := none

def quoted : Wide Unit where
  start := ()
  next _ := nextQuoted
  room := none

end RequestChain.Charset.Backslash
