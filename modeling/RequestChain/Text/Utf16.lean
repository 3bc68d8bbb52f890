import RequestChain.Text.Decoded

namespace RequestChain.Text.Utf16

structure Pending where
  byte : Option UInt8
  high : Option Nat

def isHigh (unit : Nat) : Bool := 0xD800 ≤ unit && unit < 0xDC00

def isLow (unit : Nat) : Bool := 0xDC00 ≤ unit && unit < 0xE000

def lead (alone : Option Char) (unit : Nat) : List (Option Char) × Pending :=
  if isHigh unit then ([], ⟨none, some unit⟩)
  else ([if isLow unit then alone else some (Char.ofNat unit)], ⟨none, none⟩)

/-- A unit. One that does not continue a high unit starts anew. -/
def stepUnit (alone : Option Char) (high : Option Nat) (unit : Nat) :
    List (Option Char) × Pending :=
  match high with
  | none => lead alone unit
  | some h =>
    if isLow unit then
      ([some (Char.ofNat (0x10000 + (h - 0xD800) * 0x400 + (unit - 0xDC00)))], ⟨none, none⟩)
    else
      let (chars, pending) := lead alone unit
      (alone :: chars, pending)

/-- Reads UTF-16. A byte that is left over at the end is a gap, together with a unit before it that
stands alone. -/
def decoder (alone : Option Char) (order : ByteOrder) : Decoder Pending where
  start := ⟨none, none⟩
  step pending byte :=
    match pending.byte with
    | none => ([], { pending with byte := some byte })
    | some first => stepUnit alone pending.high (order.join 0x100 first.toNat byte.toNat)
  finish pending :=
    if pending.byte.isSome then [none] else if pending.high.isSome then [alone] else []

def decode (order : ByteOrder) (bytes : List UInt8) : Decoded := (decoder none order).decode bytes

def decodeUnits (order : ByteOrder) (bytes : List UInt8) : Decoded :=
  (decoder Decoded.replacement order).decode bytes

/-- What bytes say after the mark that shows their order. Without a mark there must be less than
one unit. -/
def decodeMarked? : List UInt8 → Option Decoded
  | 0xFE :: 0xFF :: bytes => some (decode .bigFirst bytes)
  | 0xFF :: 0xFE :: bytes => some (decode .littleFirst bytes)
  | _ :: _ :: _ => none
  | bytes => some (decode .littleFirst bytes)

end RequestChain.Text.Utf16
