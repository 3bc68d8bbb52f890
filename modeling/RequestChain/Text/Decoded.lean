namespace RequestChain.Text

/-- Characters in order; `none` is a gap, where bytes mean nothing. -/
abbrev Decoded := Array (Option Char)

namespace Decoded

def replacement : Char := Char.ofNat 0xFFFD

def lossy (d : Decoded) : String := String.ofList (d.toList.map (·.getD replacement))

def gapless? (d : Decoded) : Option String := (d.toList.mapM id).map String.ofList

end Decoded

/-- A way to read bytes one by one: what is known before the first byte, what each byte adds, and
what the end of the bytes adds. -/
structure Decoder (σ : Type) where
  start : σ
  step : σ → UInt8 → List (Option Char) × σ
  finish : σ → List (Option Char)

namespace Decoder

def advance (d : Decoder σ) (sofar : Decoded × σ) (byte : UInt8) : Decoded × σ :=
  let (added, state) := d.step sofar.2 byte
  (added.foldl Array.push sofar.1, state)

def decode (d : Decoder σ) (bytes : List UInt8) : Decoded :=
  let (out, state) := bytes.foldl d.advance (#[], d.start)
  (d.finish state).foldl Array.push out

end Decoder

inductive ByteOrder where
  | bigFirst
  | littleFirst
  deriving DecidableEq

def ByteOrder.join (order : ByteOrder) (base first second : Nat) : Nat :=
  match order with
  | .bigFirst => first * base + second
  | .littleFirst => second * base + first

end RequestChain.Text
