import RequestChain.Compression.Checksum
import RequestChain.Compression.Deflate

namespace RequestChain.Compression

/-- A short header of two bytes; a checksum of all bytes, its highest byte first. -/
def unpackShort : Unpack Unit := do
  let header ← takeBytes 2
  let first := header % 0x100
  demand ((first * 0x100 + header / 0x100) % 31 == 0) .header
  demand (first % 16 == 8) .method
  demand (first / 16 ≤ 7) .windowSize
  if header.testBit 13 then
    let _ ← takeBytes 4
    refuse .dictionary
  Deflate.unpack
  let given ← takeBytes 4
  let bytes := (List.range 4).map fun n => given / Nat.pow 0x100 n % 0x100
  demand (bytes.foldl (fun n byte => n * 0x100 + byte) 0 ==
    Checksum.adler (← get).output.toList) .checksum

def skipText : Nat → Unpack Unit
  | 0 => throw .short
  | fuel + 1 => do
    if (← takeBytes 1) ≠ 0 then skipText fuel

/-- A long header, which may hold texts and a checksum of its own; a checksum and the number of
all bytes. -/
def unpackLong : Unpack Unit := do
  demand ((← takeBytes 2) == 0x8B1F) .header
  let flags ← takeBytes 2
  demand (flags % 0x100 == 8) .method
  let flags := flags / 0x100
  demand (flags < 0x20) .headerFlags
  let _ ← takeBytes 4
  let _ ← takeBytes 2
  let left := (← get).left
  if flags.testBit 2 then
    let length ← takeBytes 2
    let _ ← takeBytes length
  if flags.testBit 3 then skipText left
  if flags.testBit 4 then skipText left
  if flags.testBit 1 then
    let s ← get
    let header := s.packed.toList.take (s.place / 8)
    demand ((← takeBytes 2) == Checksum.crc header % 0x10000) .headerChecksum
  Deflate.unpack
  demand ((← takeBytes 4) == Checksum.crc (← get).output.toList) .checksum
  demand ((← takeBytes 4) == (← get).output.size % 0x100000000) .length

end RequestChain.Compression
