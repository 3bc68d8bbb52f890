import RequestChain.Text.Decoded

namespace RequestChain.Charset

/-- A code page lists the characters of its bytes in order, with U+FFFD for a byte that means
nothing. -/
structure Page where
  /-- The byte that the list starts with. Those below it are the numbers of their characters. -/
  first : Nat
  characters : Array Char

namespace Page

def beyondAscii (characters : String) : Page := ⟨0x80, characters.toList.toArray⟩

def whole (characters : String) : Page := ⟨0, characters.toList.toArray⟩

def latin1 : Page := ⟨0x100, #[]⟩

def char? (p : Page) (byte : UInt8) : Option Char :=
  if byte.toNat < p.first then some (Char.ofNat byte.toNat)
  else p.characters[byte.toNat - p.first]?.filter (· ≠ Text.Decoded.replacement)

def decode (p : Page) (bytes : List UInt8) : Text.Decoded := (bytes.map p.char?).toArray

end Page
end RequestChain.Charset
