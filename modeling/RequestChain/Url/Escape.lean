import RequestChain.Text.Hex
import RequestChain.Text.Utf8

namespace RequestChain.Url

def escapeByte (byte : UInt8) : List Char :=
  ['%', Hex.capital (byte.toNat / 16), Hex.capital (byte.toNat % 16)]

/-- The text with the characters escaped that do not pass the test, as the bytes that they have in
UTF-8. -/
def escape (safe : Char → Bool) (s : String) : String :=
  String.ofList (s.toList.flatMap fun c =>
    if safe c then [c] else (String.utf8EncodeChar c).flatMap escapeByte)

def plainBut (others : List Char) (c : Char) : Bool :=
  0x20 ≤ c.toNat && c.toNat < 0x7F && !others.contains c

def querySafe : Char → Bool := plainBut [' ', '"', '#', '<', '>']

def fragmentSafe : Char → Bool := plainBut [' ', '"', '<', '>', '\x60']

def pathSafe : Char → Bool :=
  plainBut [' ', '"', '#', '<', '>', '?', '\x60', '\x7b', '\x7d']

def userSafe : Char → Bool :=
  plainBut [' ', '"', '#', '<', '>', '?', '\x60', '\x7b', '\x7d', '/', ';', '=', '@', '[', '\\',
    ']', '^', '|']

def hostSafe (c : Char) : Bool :=
  c.isAlphanum || "-._~!$&'()*+,;=\"\x60\x7b\x7d%|\\".toList.contains c

def unescapedBytes : List Char → List UInt8
  | '%' :: a :: b :: rest =>
    match Hex.value? a, Hex.value? b with
    | some x, some y => UInt8.ofNat (x * 16 + y) :: unescapedBytes rest
    | _, _ => String.utf8EncodeChar '%' ++ unescapedBytes (a :: b :: rest)
  | c :: rest => String.utf8EncodeChar c ++ unescapedBytes rest
  | [] => []

def unescape (s : String) : String := (Text.Utf8.decode (unescapedBytes s.toList)).lossy

end RequestChain.Url
