import RequestChain.Compression.PrefixCode

namespace RequestChain.Compression.Deflate

/-- A number in a range: the first of the range, and how many bits come for the place in it. -/
abbrev Range := Nat × Nat

def takeIn (r : Range) : Unpack Nat := return r.1 + (← takeBits r.2)

def lengthRanges : Array Range := #[
  (3, 0), (4, 0), (5, 0), (6, 0), (7, 0), (8, 0), (9, 0), (10, 0), (11, 1), (13, 1), (15, 1),
  (17, 1), (19, 2), (23, 2), (27, 2), (31, 2), (35, 3), (43, 3), (51, 3), (59, 3), (67, 4),
  (83, 4), (99, 4), (115, 4), (131, 5), (163, 5), (195, 5), (227, 5), (258, 0)]

def distanceRanges : Array Range := #[
  (1, 0), (2, 0), (3, 0), (4, 0), (5, 1), (7, 1), (9, 2), (13, 2), (17, 3), (25, 3), (33, 4),
  (49, 4), (65, 5), (97, 5), (129, 6), (193, 6), (257, 7), (385, 7), (513, 8), (769, 8),
  (1025, 9), (1537, 9), (2049, 10), (3073, 10), (4097, 11), (6145, 11), (8193, 12), (12289, 12),
  (16385, 13), (24577, 13)]

structure Codes where
  literals : PrefixCode
  distances : PrefixCode

def fixedCodes : Codes where
  literals := .ofLengths <| List.replicate 144 8 ++ List.replicate 112 9 ++
    List.replicate 24 7 ++ List.replicate 8 8
  distances := .ofLengths (List.replicate 32 5)

def lengthOrder : List Nat := [16, 17, 18, 0, 8, 7, 9, 6, 10, 5, 11, 4, 12, 3, 13, 2, 14, 1, 15]

def takeLengthCode (count : Nat) : Unpack PrefixCode := do
  let given ← (lengthOrder.take count).mapM fun symbol => return (symbol, ← takeBits 3)
  let code : PrefixCode := .ofLengths ((List.range 19).map fun n => (given.lookup n).getD 0)
  demand (code.isFull || given.all (·.2 == 0)) .lengthCode
  return code

/-- Takes lengths until there are `total`, the last of them first in `done`. Symbols above 15 are
repetitions of the last length or of zero. -/
def takeLengths (code : PrefixCode) (total : Nat) : Nat → List Nat → Unpack (List Nat)
  | 0, done => return done.reverse
  | fuel + 1, done => do
    if total ≤ done.length then return done.reverse
    let again (value count : Nat) : Unpack (List Nat) := do
      demand (done.length + count ≤ total) .lengthRepeat
      takeLengths code total fuel (List.replicate count value ++ done)
    match (← code.take?).getD 0 with
    | 16 =>
      let count ← takeIn (3, 2)
      match done with
      | last :: _ => again last count
      | [] => refuse .lengthRepeat
    | 17 => again 0 (← takeIn (3, 3))
    | 18 => again 0 (← takeIn (11, 7))
    | length => takeLengths code total fuel (length :: done)

def takeCodes : Unpack Codes := do
  let literalCount ← takeIn (257, 5)
  let distanceCount ← takeIn (1, 5)
  let lengthCount ← takeIn (4, 4)
  demand (literalCount ≤ 286 && distanceCount ≤ 30) .tooManySymbols
  let code ← takeLengthCode lengthCount
  let total := literalCount + distanceCount
  let lengths ← takeLengths code total total []
  demand (lengths[256]? != some 0) .noEndOfBlock
  let literals : PrefixCode := .ofLengths (lengths.take literalCount)
  demand literals.isUsable .literalCode
  let distances : PrefixCode := .ofLengths (lengths.drop literalCount)
  demand distances.isUsable .distanceCode
  return ⟨literals, distances⟩

def takeRepetition (codes : Codes) (r : Range) : Unpack Unit := do
  let length ← takeIn r
  match (← codes.distances.take?).bind (distanceRanges[·]?) with
  | none => refuse .distanceSymbol
  | some r =>
    let distance ← takeIn r
    demand (distance ≤ (← get).output.size) .distanceTooFar
    modify fun s => { s with output := repeatOutput length distance s.output }

/-- Unpacks words up to the end of the block. Each word takes at least one bit; `fuel` bounds the
words. -/
def takeWords (codes : Codes) : Nat → Unpack Unit
  | 0 => throw .short
  | fuel + 1 => do
    match ← codes.literals.take? with
    | none => refuse .literalSymbol
    | some symbol =>
      if symbol = 256 then return ()
      if symbol < 256 then put (UInt8.ofNat symbol)
      else
        match lengthRanges[symbol - 257]? with
        | none => refuse .literalSymbol
        | some r => takeRepetition codes r
      takeWords codes fuel

def takeStored : Nat → Unpack Unit
  | 0 => return ()
  | count + 1 => do
    put (UInt8.ofNat (← takeBytes 1))
    takeStored count

def takeBlock : Unpack Bool := do
  if (← get).left < 3 then throw .short
  let last ← takeBit
  match ← takeBits 2 with
  | 0 =>
    skipToByte
    let lengths ← takeBytes 4
    let length := lengths % 0x10000
    demand (length + lengths / 0x10000 == 0xFFFF) .storedLengths
    takeStored length
  | 1 => takeWords fixedCodes (← get).left
  | 2 =>
    let codes ← takeCodes
    takeWords codes (← get).left
  | _ => refuse .blockType
  return last

/-- Unpacks blocks up to the last one. Each block takes at least three bits; `fuel` bounds the
blocks. -/
def takeBlocks : Nat → Unpack Unit
  | 0 => throw .short
  | fuel + 1 => do
    if ← takeBlock then skipToByte else takeBlocks fuel

def unpack : Unpack Unit := do takeBlocks ((← get).left + 1)

end RequestChain.Compression.Deflate
