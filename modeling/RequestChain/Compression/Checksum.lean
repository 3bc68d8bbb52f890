namespace RequestChain.Compression.Checksum

/-- Two sums modulo the greatest prime below 2^16: of the bytes, and of the sums so far. -/
def adler (bytes : List UInt8) : Nat :=
  let (a, b) := bytes.foldl (fun (a, b) byte =>
    let a := (a + byte.toNat) % 65521
    (a, (b + a) % 65521)) (1, 0)
  b * 0x10000 + a

def divideBit (n : UInt32) : UInt32 :=
  if n &&& 1 = 1 then (n >>> 1) ^^^ 0xEDB88320 else n >>> 1

def divideByte (n : UInt32) (byte : UInt8) : UInt32 :=
  (List.range 8).foldl (fun n _ => divideBit n) (n ^^^ byte.toUInt32)

/-- The rest of a division of polynomials with coefficients 0 and 1. -/
def crc (bytes : List UInt8) : Nat :=
  (bytes.foldl divideByte 0xFFFFFFFF ^^^ 0xFFFFFFFF).toNat

end RequestChain.Compression.Checksum
