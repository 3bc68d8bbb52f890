import RequestChain.Text.Decoded

namespace RequestChain.Text.Utf32

def number (order : ByteOrder) (a b c d : UInt8) : Nat :=
  order.join 0x10000 (order.join 0x100 a.toNat b.toNat) (order.join 0x100 c.toNat d.toNat)

/-- The character of a number. What the number of half a character in UTF-16 is read as is for the
reader to say. -/
def charOf? (alone : Option Char) (n : Nat) : Option Char :=
  if n.isValidChar then some (Char.ofNat n) else if n < 0x10000 then alone else none

/-- Reads UTF-32. The state holds the bytes of a number that is not complete, the last one first. -/
def decoder (alone : Option Char) (order : ByteOrder) : Decoder (List UInt8) where
  start := []
  step pending byte :=
    match pending with
    | [c, b, a] => ([charOf? alone (number order a b c byte)], [])
    | _ => ([], byte :: pending)
  finish pending := if pending.isEmpty then [] else [none]

def decode (order : ByteOrder) (bytes : List UInt8) : Decoded := (decoder none order).decode bytes

def decodeUnits (order : ByteOrder) (bytes : List UInt8) : Decoded :=
  (decoder Decoded.replacement order).decode bytes

/-- What bytes say after the mark that shows their order. Without a mark there must be less than
one number. -/
def decodeMarked? : List UInt8 → Option Decoded
  | 0x00 :: 0x00 :: 0xFE :: 0xFF :: bytes => some (decode .bigFirst bytes)
  | 0xFF :: 0xFE :: 0x00 :: 0x00 :: bytes => some (decode .littleFirst bytes)
  | _ :: _ :: _ :: _ :: _ => none
  | bytes => some (decode .littleFirst bytes)

end RequestChain.Text.Utf32
