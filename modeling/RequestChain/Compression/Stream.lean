import RequestChain.Compression.Fault

namespace RequestChain.Compression

/-- Where an unpacking is: the packed bytes, how many of their bits are taken, and what has been
put out. -/
structure Stream where
  packed : Array UInt8
  place : Nat
  output : Array UInt8

inductive Stop where
  | short
  | fault (f : CompressionFault)

abbrev Unpack := ExceptT Stop (StateM Stream)

def refuse (f : CompressionFault) : Unpack α := throw (.fault f)

def demand (condition : Bool) (f : CompressionFault) : Unpack Unit :=
  if condition then return () else refuse f

def Stream.bit? (s : Stream) (place : Nat) : Option Bool :=
  s.packed[place / 8]?.map fun byte => byte.toNat.testBit (place % 8)

def Stream.left (s : Stream) : Nat := 8 * s.packed.size - s.place

def takeBit : Unpack Bool := do
  let s ← get
  match s.bit? s.place with
  | some b =>
    set { s with place := s.place + 1 }
    return b
  | none => throw .short

/-- Takes the bits of a number, the lowest first. All of them must be there. -/
def takeBits (count : Nat) : Unpack Nat := do
  let s ← get
  if s.left < count then throw .short
  let bits := (List.range count).filterMap fun i => s.bit? (s.place + i)
  set { s with place := s.place + count }
  return bits.foldr (fun b n => 2 * n + b.toNat) 0

def takeBytes (count : Nat) : Unpack Nat := takeBits (8 * count)

def skipToByte : Unpack Unit := modify fun s => { s with place := (s.place + 7) / 8 * 8 }

def put (byte : UInt8) : Unpack Unit := modify fun s => { s with output := s.output.push byte }

/-- Puts out a number of bytes as they were put out a distance before. The new bytes may be among
those that are repeated. -/
def repeatOutput : Nat → Nat → Array UInt8 → Array UInt8
  | 0, _, output => output
  | length + 1, distance, output =>
    repeatOutput length distance (output.push (output[output.size - distance]?.getD 0))

/-- What an unpacking puts out. Where the packed bytes end too early, what has been put out stands.
-/
def Unpack.run (unpack : Unpack Unit) (packed : List UInt8) :
    Except CompressionFault (List UInt8) :=
  let (result, s) := ExceptT.run unpack ⟨packed.toArray, 0, #[]⟩
  match result with
  | .error (.fault f) => .error f
  | _ => .ok s.output.toList

end RequestChain.Compression
