import RequestChain.Json.Basic
import RequestChain.Number.Shortest
import RequestChain.Text.Hex

namespace RequestChain.Json

structure Style where
  gap : String
  colon : String
  indent : Option Nat
  ascii : Bool

def Style.spaced : Style := ⟨" ", ": ", none, false⟩

def Style.dense : Style := ⟨"", ":", none, false⟩

def Style.pretty : Style := ⟨"", ": ", some 2, false⟩

def Style.plainAscii : Style := ⟨" ", ": ", none, true⟩

def floatWords : FloatWords := ⟨"NaN", "Infinity"⟩

def unitEscape (n : Nat) : List Char :=
  ['\\', 'u', Hex.digit (n / 4096 % 16), Hex.digit (n / 256 % 16), Hex.digit (n / 16 % 16),
   Hex.digit (n % 16)]

/-- A character by number: one escape, or two for a character above U+FFFF. -/
def numericEscape (n : Nat) : List Char :=
  if n < 0x10000 then unitEscape n
  else
    unitEscape (0xD800 + (n - 0x10000) / 0x400) ++ unitEscape (0xDC00 + (n - 0x10000) % 0x400)

def charText (ascii : Bool) (c : Char) : List Char :=
  if c = '"' then ['\\', '"']
  else if c = '\\' then ['\\', '\\']
  else if c = '\n' then ['\\', 'n']
  else if c = '\r' then ['\\', 'r']
  else if c = '\t' then ['\\', 't']
  else if c = '\x08' then ['\\', 'b']
  else if c = '\x0c' then ['\\', 'f']
  else if c.toNat < 0x20 ∨ (ascii ∧ 0x7E < c.toNat) then numericEscape c.toNat
  else [c]

def quote (ascii : Bool) (s : String) : List Char :=
  '"' :: s.toList.flatMap (charText ascii) ++ ['"']

def intChars (n : Int) : List Char :=
  if n < 0 then '-' :: Nat.toDigits 10 n.natAbs else Nat.toDigits 10 n.natAbs

namespace Style

def lead (style : Style) (depth : Nat) : List Char :=
  match style.indent with
  | none => []
  | some n => '\n' :: List.replicate (n * depth) ' '

def between (style : Style) (depth : Nat) : List Char :=
  ',' :: style.gap.toList ++ style.lead depth

end Style

mutual

def chars (style : Style) (depth : Nat) : Json → List Char
  | .null => "null".toList
  | .bool true => "true".toList
  | .bool false => "false".toList
  | .int n => intChars n
  | .float x => x.chars floatWords
  | .str s => quote style.ascii s
  | .arr [] => ['[', ']']
  | .arr (v :: vs) =>
    '[' :: style.lead (depth + 1) ++ chars style (depth + 1) v ++
      itemsChars style (depth + 1) vs ++ style.lead depth ++ [']']
  | .obj [] => ['\x7b', '\x7d']
  | .obj ((name, v) :: ms) =>
    '\x7b' :: style.lead (depth + 1) ++ quote style.ascii name ++ style.colon.toList ++
      chars style (depth + 1) v ++ membersChars style (depth + 1) ms ++ style.lead depth ++
      ['\x7d']

def itemsChars (style : Style) (depth : Nat) : List Json → List Char
  | [] => []
  | v :: vs => style.between depth ++ chars style depth v ++ itemsChars style depth vs

def membersChars (style : Style) (depth : Nat) : List (String × Json) → List Char
  | [] => []
  | (name, v) :: ms =>
    style.between depth ++ quote style.ascii name ++ style.colon.toList ++
      chars style depth v ++ membersChars style depth ms

end

def write (style : Style) (v : Json) : String := String.ofList (v.chars style 0)

def spaced (v : Json) : String := v.write .spaced

def pretty (v : Json) : String := v.write .pretty

end RequestChain.Json
