namespace RequestChain.Text.Latin1

def decode (bytes : List UInt8) : String := String.ofList (bytes.map fun b => Char.ofNat b.toNat)

end RequestChain.Text.Latin1
