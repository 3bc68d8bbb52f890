import RequestChain.Text.Decoded

namespace RequestChain.Text.Utf8

/-- A character whose first bytes have been read: how many bytes are to come, the range of the next
one, and the bits so far. -/
structure Pending where
  missing : Nat
  low : Nat
  high : Nat
  bits : Nat

/-- What a byte starts: a character of its own, a longer one, or nothing. The ranges of the second
byte leave out overlong forms, surrogates and numbers above U+10FFFF. -/
def lead (byte : UInt8) : List (Option Char) × Option Pending :=
  let n := byte.toNat
  if n < 0x80 then ([some (Char.ofNat n)], none)
  else if 0xC2 ≤ n ∧ n < 0xE0 then ([], some ⟨1, 0x80, 0xBF, n - 0xC0⟩)
  else if n = 0xE0 then ([], some ⟨2, 0xA0, 0xBF, 0⟩)
  else if n = 0xED then ([], some ⟨2, 0x80, 0x9F, 0xD⟩)
  else if 0xE1 ≤ n ∧ n < 0xF0 then ([], some ⟨2, 0x80, 0xBF, n - 0xE0⟩)
  else if n = 0xF0 then ([], some ⟨3, 0x90, 0xBF, 0⟩)
  else if 0xF1 ≤ n ∧ n < 0xF4 then ([], some ⟨3, 0x80, 0xBF, n - 0xF0⟩)
  else if n = 0xF4 then ([], some ⟨3, 0x80, 0x8F, 4⟩)
  else ([none], none)

/-- One byte after a pending character, if it continues it: the characters that are now finished
and what is pending then. -/
def next? (p : Pending) (byte : UInt8) : Option (List (Option Char) × Option Pending) :=
  let n := byte.toNat
  if p.low ≤ n ∧ n ≤ p.high then
    let bits := p.bits * 64 + (n - 0x80)
    if p.missing ≤ 1 then some ([some (Char.ofNat bits)], none)
    else some ([], some ⟨p.missing - 1, 0x80, 0xBF, bits⟩)
  else none

def step (pending : Option Pending) (byte : UInt8) : List (Option Char) × Option Pending :=
  match pending with
  | none => lead byte
  | some p =>
    match next? p byte with
    | some result => result
    | none =>
      let (chars, pending) := lead byte
      (none :: chars, pending)

/-- Reads UTF-8. A character that is still pending at the end is a gap. -/
def decoder : Decoder (Option Pending) where
  start := none
  step := step
  finish pending := if pending.isSome then [none] else []

/-- What bytes say in UTF-8. Each longest run that starts a character but does not finish it, and
each byte that starts none, is a gap. -/
def decode (bytes : List UInt8) : Decoded := decoder.decode bytes

def mark : List UInt8 := [0xEF, 0xBB, 0xBF]

/-- What bytes say after the mark that may come first. Less than a whole mark is nothing. -/
def decodeMarked (bytes : List UInt8) : Decoded :=
  if bytes.length < mark.length && bytes.isPrefixOf mark then #[]
  else if mark.isPrefixOf bytes then decode (bytes.drop mark.length)
  else decode bytes

def encode (s : String) : List UInt8 := s.toList.flatMap String.utf8EncodeChar

end RequestChain.Text.Utf8
